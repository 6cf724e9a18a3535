import Microticket.DirectoryChanges

/-! # What the whole system keeps

In every pool that the mutations and inbound mail reach, all tables, in every version that was ever
committed, fit one directory, and so does every answer that was given (`SystemInvariant`).  The
directory only grows (`SystemInvariant.run`), so what a call has read of where a row belongs is true
when it writes, however long ago that was. -/

namespace Microticket

open Interleaving Tables

/-! ### The store -/

/-- All committed versions fit the directory, and what it names exists. -/
structure SystemStore.Fits (s : SystemStore) (dir : Directory) : Prop where
  admin : ∀ d, s.admin.db.Committed d → d.Fits dir
  adminRows : s.admin.db.now.Backs dir
  invoices : ∀ d, s.invoices.db.Committed d → d.Fits dir
  minted : ∀ id, (dir.place id).isSome → id ∈ s.invoices.minted
  tickets : ∀ d, s.tickets.db.Committed d → d.Fits dir
  ticketRows : s.tickets.db.now.Backs dir

/-- The directory allows the request. -/
def SystemOp.Knows (dir : Directory) : SystemOp → Prop
  | .admin op => op.Knows dir
  | .invoice op => op.Knows dir
  | .ticket op => op.Knows dir

theorem SystemStore.Fits.empty : emptySystemStore.Fits .empty where
  admin d hd := by
    obtain rfl := List.mem_singleton.mp hd
    exact ⟨.empty, .empty, .empty⟩
  adminRows := ⟨fun _ hid => (by cases hid), fun _ hid => (by cases hid)⟩
  invoices d hd := by
    obtain rfl := List.mem_singleton.mp hd
    exact ⟨.empty, .empty⟩
  minted _ hid := by cases hid
  tickets d hd := by
    obtain rfl := List.mem_singleton.mp hd
    exact ⟨.empty, .empty, .empty⟩
  ticketRows := ⟨fun _ hid => (by cases hid), fun _ hid => (by cases hid)⟩

section store
variable {s s' : SystemStore} {e : SystemEnv} {op : SystemOp} {dir : Directory}

/-- A request that the directory allows leads to a store that fits a directory with its new row. -/
theorem SystemStore.Fits.move (h : s.Fits dir) (hmove : s.Move e op s') (hknows : op.Knows dir)
    (hnew : e.invoices.newId ∉ s.invoices.minted) : ∃ dir', dir.Le dir' ∧ s'.Fits dir' := by
  cases hmove with
  | same => exact ⟨dir, .refl dir, h⟩
  | admin _ hchange =>
      obtain ⟨dir', hle, hfits, hrows, hplace, hticket, hmessage⟩ :=
        (h.admin _ (Replica.committed_now _)).write h.adminRows hknows hchange
      refine ⟨dir', hle, ⟨fun d hd => ?_, hrows, fun d hd => (h.invoices d hd).mono hle, ?_,
        fun d hd => (h.tickets d hd).mono hle, ?_⟩⟩
      · rcases List.mem_cons.mp hd with rfl | hd
        · exact hfits
        · exact (h.admin d hd).mono hle
      · rw [hplace]
        exact h.minted
      · exact ⟨by rw [hticket]; exact h.ticketRows.tickets,
          by rw [hmessage]; exact h.ticketRows.messages⟩
  | invoice hchange =>
      have hnone : dir.place e.invoices.newId = none :=
        Option.not_isSome_iff_eq_none.mp fun hsome => hnew (h.minted _ hsome)
      obtain ⟨dir', hle, hfits, hplaces, hkind, hproject, hticket, hmessage⟩ :=
        (h.invoices _ (Replica.committed_now _)).write hnone hknows hchange
      refine ⟨dir', hle, ⟨fun d hd => (h.admin d hd).mono hle, ?_, fun d hd => ?_, fun id hid => ?_,
        fun d hd => (h.tickets d hd).mono hle, ?_⟩⟩
      · exact ⟨by rw [hkind]; exact h.adminRows.instances,
          by rw [hproject]; exact h.adminRows.projects⟩
      · rcases List.mem_cons.mp hd with rfl | hd
        · exact hfits
        · exact (h.invoices d hd).mono hle
      · rcases hplaces id hid with rfl | hold
        · exact List.mem_cons_self
        · exact List.mem_cons_of_mem _ (h.minted id hold)
      · exact ⟨by rw [hticket]; exact h.ticketRows.tickets,
          by rw [hmessage]; exact h.ticketRows.messages⟩
  | ticket hchange =>
      obtain ⟨dir', hle, hfits, hrows, hkind, hproject, hplace⟩ :=
        (h.tickets _ (Replica.committed_now _)).write h.ticketRows hknows hchange
      refine ⟨dir', hle, ⟨fun d hd => (h.admin d hd).mono hle, ?_,
        fun d hd => (h.invoices d hd).mono hle, ?_, fun d hd => ?_, hrows⟩⟩
      · exact ⟨by rw [hkind]; exact h.adminRows.instances,
          by rw [hproject]; exact h.adminRows.projects⟩
      · rw [hplace]
        exact h.minted
      · rcases List.mem_cons.mp hd with rfl | hd
        · exact hfits
        · exact (h.tickets d hd).mono hle

end store

/-! ### Answers -/

/-- The answer fits the directory. -/
def Directory.Tells (dir : Directory) : SystemEvent → Prop
  | ⟨_, .admin (.getInstance id), .ok (some inst)⟩ => dir.IsInstance id inst
  | ⟨_, .admin (.getProject id), .ok (some row)⟩ => dir.IsProject id row.toProject
  | ⟨_, .invoice (.getInstance id), .ok (some inst)⟩ => dir.IsInstance id inst
  | ⟨_, .invoice (.getProject id), .ok (some project)⟩ => dir.IsProject id project
  | ⟨_, .invoice (.getBillableItem id), .ok (some item)⟩ => dir.IsItem id item
  | ⟨_, .invoice (.getInvoiceConsistent id), .ok (some invoice)⟩ => dir.IsInvoice id invoice
  | ⟨_, .ticket (.getInstance id), .ok (some inst)⟩ => dir.IsInstance id inst
  | ⟨_, .ticket (.getTicket id), .ok (some ticket)⟩ => dir.IsTicket id ticket
  | ⟨_, .ticket (.getInboundAddress address), .ok (some row)⟩ => dir.IsAddress address row
  | ⟨_, .ticket (.createTicket instanceId _ _ _ _), .ok ticket⟩ =>
      dir.IsTicket ticket.id ticket ∧ ticket.instanceId = instanceId
  | ⟨_, .ticket (.createTicketMessage content), .ok message⟩ =>
      dir.IsMessage message.id message ∧ message.content = content
  | _ => True

section answers
variable {s : SystemStore} {e : SystemEnv} {fits : Item → Bool} {readOnly : Bool}
variable {dir dir' : Directory} {i : ℕ}

theorem Directory.Tells.mono {ev : SystemEvent} (h : dir.Tells ev) (hle : dir.Le dir') :
    dir'.Tells ev := by
  unfold Directory.Tells at h ⊢
  split at h
  · exact h.mono hle
  · exact h.mono hle
  · exact h.mono hle
  · exact h.mono hle
  · exact h.mono hle
  · exact h.mono hle
  · exact h.mono hle
  · exact h.mono hle
  · exact h.mono hle
  · exact ⟨h.1.mono hle, h.2⟩
  · exact ⟨h.1.mono hle, h.2⟩
  · trivial

theorem tells_admin {op : AdminOp} (h : (s.serve e fits readOnly (.admin op)).2.Fits dir) :
    dir.Tells ⟨i, .admin op, (s.serve e fits readOnly (.admin op)).1⟩ := by
  show dir.Tells ⟨i, .admin op, (s.admin.serve e.admin readOnly op).1⟩
  have hseen : ((s.admin.serve e.admin readOnly op).2.db.seen e.admin.lag).Fits dir :=
    h.admin _ (Replica.committed_seen _ _)
  generalize hr : (s.admin.serve e.admin readOnly op).1 = r
  cases op with
  | getInstance id =>
      rcases r with err | row
      · trivial
      cases row with
      | none => trivial
      | some inst => exact hseen.instances (Except.ok.inj (Fault.read_ok hr))
  | getProject id =>
      rcases r with err | row
      · trivial
      cases row with
      | none => trivial
      | some row => exact hseen.projects (Except.ok.inj (Fault.read_ok hr))
  | _ => trivial

theorem tells_invoice {op : InvoiceOp} (hadmin : ∀ d, s.admin.db.Committed d → d.Fits dir)
    (h : (s.serveInvoice e readOnly op).2.Fits dir) :
    dir.Tells ⟨i, .invoice op, (s.serveInvoice e readOnly op).1⟩ := by
  have hadminSeen : (s.adminSeen e).Fits dir := hadmin _ (Replica.committed_seen _ _)
  generalize hr : (s.serveInvoice e readOnly op).1 = r
  cases op with
  | getInstance id =>
      rcases r with err | row
      · trivial
      cases row with
      | none => trivial
      | some inst => exact hadminSeen.instances (InvoiceStore.read_ok (s := s.invoices) hr)
  | getProject id =>
      rcases r with err | row
      · trivial
      cases row with
      | none => trivial
      | some project =>
          obtain ⟨row, hrow, rfl⟩ := Option.map_eq_some_iff.mp
            (InvoiceStore.read_ok (s := s.invoices) hr)
          exact hadminSeen.projects hrow
  | getBillableItem id =>
      rcases r with err | row
      · trivial
      cases row with
      | none => trivial
      | some item =>
          exact (h.invoices _ (Replica.committed_seen _ _)).items
            (InvoiceStore.read_ok (s := s.invoices) hr)
  | getInvoiceConsistent id =>
      rcases r with err | row
      · trivial
      cases row with
      | none => trivial
      | some invoice =>
          exact (h.invoices _ (Replica.committed_now _)).invoices
            (InvoiceStore.read_ok (s := s.invoices) hr)
  | _ => trivial

theorem tells_ticket {op : TicketOp} (hadmin : ∀ d, s.admin.db.Committed d → d.Fits dir)
    (h : (s.serveTicket e fits readOnly op).2.Fits dir) :
    dir.Tells ⟨i, .ticket op, (s.serveTicket e fits readOnly op).1⟩ := by
  have hadminSeen : (s.adminSeen e).Fits dir := hadmin _ (Replica.committed_seen _ _)
  generalize hr : (s.serveTicket e fits readOnly op).1 = r
  -- the answers of the tables of tickets describe a version of them
  have hanswered := s.tickets.serve_answered e.tickets fits readOnly i op
  cases op with
  | getInstance id =>
      rcases r with err | row
      · trivial
      cases row with
      | none => trivial
      | some inst => exact hadminSeen.instances (TicketStore.read_ok (s := s.tickets) hr).symm
  | getTicket id =>
      obtain ⟨d, hd, hans⟩ := hanswered
      rw [show (s.tickets.serve e.tickets fits readOnly (.getTicket id)).1 = r from hr] at hans
      rcases r with err | row
      · trivial
      cases row with
      | none => trivial
      | some ticket =>
          obtain ⟨row, hrow, rfl⟩ := Option.map_eq_some_iff.mp hans.symm
          exact (h.tickets d hd).tickets hrow
  | getInboundAddress address =>
      obtain ⟨d, hd, hans⟩ := hanswered
      rw [show (s.tickets.serve e.tickets fits readOnly (.getInboundAddress address)).1 = r
        from hr] at hans
      rcases r with err | row
      · trivial
      cases row with
      | none => trivial
      | some row => exact (h.tickets d hd).addresses hans.symm
  | createTicket instanceId number subject requesterEmails ccEmails =>
      obtain ⟨d, hd, hans⟩ := hanswered
      rw [show (s.tickets.serve e.tickets fits readOnly
        (.createTicket instanceId number subject requesterEmails ccEmails)).1 = r from hr] at hans
      rcases r with err | ticket
      · trivial
      obtain ⟨hinst, -, row, hrow, rfl⟩ := hans
      exact ⟨(h.tickets d hd).tickets hrow, hinst⟩
  | createTicketMessage content =>
      obtain ⟨d, hd, hans⟩ := hanswered
      rw [show (s.tickets.serve e.tickets fits readOnly (.createTicketMessage content)).1 = r
        from hr] at hans
      rcases r with err | message
      · trivial
      exact ⟨(h.tickets d hd).messages hans.2, hans.1⟩
  | _ => trivial

end answers

/-! ### Runs -/

section runs
variable {fits : Item → Bool} {readOnly : Bool}

/-- The tables and the answers fit the directory. -/
structure SystemInvariant (dir : Directory) (t : Trace (systemService fits readOnly)) : Prop where
  fits : SystemStore.Fits t.state dir
  tells : ∀ ev ∈ t.events, dir.Tells ev

variable {t : Trace (systemService fits readOnly)} {dir : Directory} {i : ℕ}

theorem SystemInvariant.own (h : SystemInvariant dir t) : ∀ ev ∈ ownEvents i t.events, dir.Tells ev :=
  fun ev hev => h.tells ev (List.mem_of_mem_filter hev)

/-- What a call has checked is what the directory says. -/
theorem knows_of_grounded {call : SystemCall} {h : List SystemEvent} {op : SystemOp}
    (hop : op.grounded call i h) (htells : ∀ ev ∈ h, dir.Tells ev) : op.Knows dir := by
  rcases op with op | op | op
  · obtain ⟨own, h₀, rfl, rfl, hop⟩ := hop
    have htold : ∀ ev ∈ h₀, dir.Tells (adminEvent ev) :=
      fun ev hev => htells _ (List.mem_map_of_mem hev)
    cases op with
    | createApiToken | createProject =>
        obtain ⟨-, inst, hread, hkind⟩ := hop
        have hinst : dir.IsInstance _ inst := htold _ hread
        exact hinst.2.trans (congrArg some hkind)
    | _ => trivial
  · obtain ⟨own, h₀, rfl, rfl, hop⟩ := hop
    have htold : ∀ ev ∈ h₀, dir.Tells (invoiceEvent ev) :=
      fun ev hev => htells _ (List.mem_map_of_mem hev)
    cases op with
    | createBillableItem | createInvoice =>
        obtain ⟨key, project, hread, rfl, rfl, -⟩ := hop
        have hproject : dir.IsProject key project := htold _ hread
        obtain ⟨rfl, hplace⟩ := hproject
        exact hplace
    | addInvoiceItems =>
        obtain ⟨key, invoice, hread, rfl, -, rfl⟩ := hop
        have hinvoice : dir.IsInvoice key invoice := htold _ hread
        obtain ⟨rfl, hplace, -⟩ := hinvoice
        exact ⟨invoice.instanceId, hplace⟩
    | _ => trivial
  · obtain ⟨own, h₀, rfl, rfl, hop, hmet, -⟩ := hop
    have htold : ∀ ev ∈ h₀, dir.Tells (ticketEvent ev) :=
      fun ev hev => htells _ (List.mem_map_of_mem hev)
    have hsupport : ∀ {instanceId}, ReadSupport i h₀ instanceId →
        dir.kind instanceId = some .support := by
      rintro instanceId ⟨key, inst, hread, hkind, hid⟩
      have hinst : dir.IsInstance key inst := htold _ hread
      obtain rfl : instanceId = key := hid.elim id fun hid => hid.trans hinst.1
      exact hinst.2.trans (congrArg some hkind)
    cases op with
    | createTicket => exact hsupport hop.2
    | createInboundAddress => exact hsupport hop.2.1
    | createTicketMessage content =>
        have hticket : ∀ {id}, Met i h₀ id → (dir.ticket id).isSome := by
          intro id hmet
          cases hmet with
          | read hread =>
              have hrow : dir.IsTicket _ _ := htold _ hread
              rw [hrow.1, hrow.2]
              rfl
          | opened hopened =>
              have hrow : dir.IsTicket _ _ ∧ _ := htold _ hopened
              rw [hrow.1.2]
              rfl
        exact hticket hmet
    | _ => trivial

/-- A grounded request keeps the invariant. -/
theorem SystemInvariant.serve (h : SystemInvariant dir t) {e : SystemEnv} {op : SystemOp}
    {call : SystemCall} (he : (systemService fits readOnly).Allowed t.state e)
    (hop : op.grounded call i (ownEvents i t.events)) :
    ∃ dir', dir.Le dir' ∧ SystemInvariant dir' (t.serve i e op) := by
  have hmove := SystemStore.serve_move t.state e fits readOnly op
  obtain ⟨dir', hle, hfits⟩ := h.fits.move hmove (knows_of_grounded hop h.own) he.2.1
  refine ⟨dir', hle, hfits, fun ev hev => ?_⟩
  have hadmin : ∀ d, (SystemStore.admin t.state).db.Committed d → d.Fits dir' :=
    fun d hd => (h.fits.admin d hd).mono hle
  rw [Trace.serve_events] at hev
  rcases List.mem_append.mp hev with hev | hev
  · exact (h.tells ev hev).mono hle
  · rw [List.mem_singleton.mp hev]
    rcases op with op | op | op
    · exact tells_admin hfits
    · exact tells_invoice hadmin hfits
    · exact tells_ticket hadmin hfits

variable {libs : SystemLibs} {c c' : Pool (systemService fits readOnly) Error SystemReply}

/-- The directory of a run grows. -/
theorem SystemInvariant.run (h : SystemInvariant dir c.trace) (hc : c.Started (IsSystemCall libs))
    (hrun : Run (systemService fits readOnly) (IsSystemCall libs) c c') :
    ∃ dir', dir.Le dir' ∧ SystemInvariant dir' c'.trace := by
  refine Run.contract_since (K := fun t => ∃ dir', dir.Le dir' ∧ SystemInvariant dir' t)
    (G := fun i h op => ∃ call, SystemOp.grounded call i h op) (P := fun _ => True) ?_ ?_ hrun hc
    (fun _ _ => trivial) ⟨dir, .refl dir, h⟩
  · rintro p ⟨call, hcall, rfl⟩ i
    exact (grounded_systemCall hcall i).mono (fun _ _ hop => ⟨call, hop⟩) fun _ _ _ => trivial
  · rintro t i e op ⟨dir₁, hle₁, hinv⟩ he ⟨call, hop⟩ -
    obtain ⟨dir₂, hle₂, hinv₂⟩ := hinv.serve he hop
    exact ⟨dir₂, hle₁.trans hle₂, hinv₂⟩

/-- Every reachable pool has a directory. -/
theorem SystemReachable.invariant (h : SystemReachable libs fits readOnly c) :
    ∃ dir, SystemInvariant dir c.trace := by
  have hinit : SystemInvariant .empty
      (Pool.init emptySystemStore : Pool (systemService fits readOnly) Error SystemReply).trace :=
    ⟨.empty, fun ev hev => by cases hev⟩
  obtain ⟨dir, -, hdir⟩ := hinit.run (.init _) h
  exact ⟨dir, hdir⟩

end runs

end Microticket

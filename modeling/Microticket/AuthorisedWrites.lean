import Microticket.KindIsolation
import Microticket.TableChanges

/-! # A call writes only what its principal may write

Along every run, a request of a mutation changes rows of projects, items and invoices only in instances
that the caller is a member of, rows of tickets and messages only there or, for a token that submits
tickets, on a ticket that the call itself has opened in the token's instance, settings and addresses
only as an owner or superuser, and accounts only as a superuser (`authorised_writes`).

The calls check the instance of a row that they have read, which may be old or even deleted by then;
the directory says that the row that is written is of the same instance.  API tokens are left out: the
ids that two calls draw for them could be the same, as nothing is stored between the draw and the
write. -/

namespace Microticket

open Interleaving Tables

/-! ### Calls -/

/-- The principal of a call. -/
def SystemCall.auth : SystemCall → Option AuthInfo
  | .admin call => call.auth
  | .invoice m => m.auth
  | .ticket call => call.auth

/-- A mutation: neither a delivery nor a write that stands for another mutation. -/
def SystemCall.isMutation : SystemCall → Bool
  | .ticket call => call.isMutation
  | call => !call.standsIn

theorem SystemCall.standsIn_of_isMutation {call : SystemCall} (h : call.isMutation) :
    call.standsIn = false := by
  cases call with
  | admin => rfl
  | invoice m =>
      cases m with
      | putProject | putInstance => cases h
      | _ => rfl
  | ticket call =>
      cases call with
      | putInstance => cases h
      | _ => rfl

/-- The call itself has opened the ticket. -/
def OpenedBy (i : ℕ) (events : List SystemEvent) (id : String) : Prop :=
  ∃ instanceId number subject requesterEmails ccEmails ticket,
    ⟨i, .ticket (.createTicket instanceId number subject requesterEmails ccEmails), .ok ticket⟩ ∈
      events ∧ ticket.id = id

/-- What a call for `auth`, with the tickets `opened`, may change. -/
structure Permitted (auth : Option AuthInfo) (opened : String → Prop) (s s' : SystemStore) :
    Prop where
  accounts : s'.admin.db.now.users ≠ s.admin.db.now.users ∨
    s'.admin.db.now.memberships ≠ s.admin.db.now.memberships → superuser auth
  instances : ∀ {id inst}, Table.Changed s.admin.db.now.instances s'.admin.db.now.instances id inst →
    instanceOwnerOrSuperuser auth id
  projects : ∀ {id row}, Table.Changed s.admin.db.now.projects s'.admin.db.now.projects id row →
    memberOf auth row.instanceId
  items : ∀ {id item}, Table.Changed s.invoices.db.now.items s'.invoices.db.now.items id item →
    memberOf auth item.instanceId
  invoices : ∀ {id invoice},
    Table.Changed s.invoices.db.now.invoices s'.invoices.db.now.invoices id invoice →
    memberOf auth invoice.instanceId
  tickets : ∀ {id row}, Table.Changed s.tickets.db.now.tickets s'.tickets.db.now.tickets id row →
    memberOf auth row.record.instanceId ∨ submitterOf auth row.record.instanceId ∧
      (s.tickets.db.now.tickets.lookup id = none ∨ opened id)
  messages : ∀ {id message row},
    Table.Changed s.tickets.db.now.messages s'.tickets.db.now.messages id message →
    s'.tickets.db.now.tickets.lookup message.content.ticketId = some row →
    memberOf auth row.record.instanceId ∨
      submitterOf auth row.record.instanceId ∧ opened message.content.ticketId
  addresses : ∀ {address row}, s'.tickets.db.now.addresses.lookup address = some row →
    s.tickets.db.now.addresses.lookup address ≠ some row →
    instanceOwnerOrSuperuser auth row.instanceId

variable {auth : Option AuthInfo} {i : ℕ} {dir : Directory}

/-! ### Administrative tables -/

section admin
variable {d d' : AdminDb} {e : AdminEnv} {op : AdminOp} {h : List AdminEvent}

theorem accounts_permitted (hd : d.change e op = .ok d') (hop : op.grounded auth i h)
    (hne : d'.users ≠ d.users ∨ d'.memberships ≠ d.memberships) : superuser auth := by
  have hsame : ¬ (d.users ≠ d.users ∨ d.memberships ≠ d.memberships) :=
    fun h => h.elim (fun h => h rfl) fun h => h rfl
  cases op with
  | createUser | updateUser | createMembership | deleteMembership | updateMembershipRole => exact hop
  | createInstance | updateInstance | createApiToken | updateApiToken | createProject
  | updateProject =>
      obtain ⟨table, -, rfl⟩ := except_map_ok hd
      exact absurd hne hsame
  | _ =>
      obtain rfl := Except.ok.inj hd
      exact absurd hne hsame

theorem instances_permitted (hd : d.change e op = .ok d') (hop : op.grounded auth i h) {id : String}
    {inst : Instance} (hchanged : Table.Changed d.instances d'.instances id inst) :
    instanceOwnerOrSuperuser auth id := by
  cases op with
  | createInstance => exact ownerOrSuperuser_of_superuser hop id
  | updateInstance id' change =>
      obtain ⟨instances, hinstances, rfl⟩ := except_map_ok hd
      obtain ⟨row, -, rfl⟩ := updateRow_ok hinstances
      obtain rfl : id = id' := hchanged.insert
      cases change with
      | setInvoicingSettings => exact hop
      | _ => exact ownerOrSuperuser_of_superuser hop id
  | updateUser | updateMembershipRole | createApiToken | updateApiToken | createProject
  | updateProject =>
      obtain ⟨table, -, rfl⟩ := except_map_ok hd
      exact (hchanged.not_same rfl).elim
  | _ =>
      obtain rfl := Except.ok.inj hd
      exact (hchanged.not_same rfl).elim

theorem projects_permitted (hd : d.change e op = .ok d') (hop : op.grounded auth i h)
    (htold : ∀ ev ∈ h, dir.Tells (adminEvent ev)) (hfits : d.Fits dir) (hfits' : d'.Fits dir)
    {id : String} {row : ProjectRow} (hchanged : Table.Changed d.projects d'.projects id row) :
    memberOf auth row.instanceId := by
  have hrow : dir.project id = some row.instanceId :=
    (hchanged.each hfits.projects hfits'.projects).2
  cases op with
  | createProject instanceId fields =>
      obtain ⟨projects, hprojects, rfl⟩ := except_map_ok hd
      obtain ⟨-, rfl⟩ := putNew_ok hprojects
      obtain rfl : id = e.newId := hchanged.insert
      have hnew : dir.project e.newId = some instanceId := (hfits'.projects (AList.lookup_insert _)).2
      rw [← Option.some.inj (hnew.symm.trans hrow)]
      exact hop.1
  | updateProject id' fields archived =>
      obtain ⟨projects, hprojects, rfl⟩ := except_map_ok hd
      obtain ⟨old, -, rfl⟩ := updateRow_ok hprojects
      obtain rfl : id = id' := hchanged.insert
      obtain ⟨key, project, hread, rfl, hauth⟩ := hop
      have hproject : dir.IsProject key project.toProject := htold _ hread
      obtain ⟨rfl, hinst⟩ := hproject
      rw [← Option.some.inj (hinst.symm.trans hrow)]
      exact hauth
  | updateUser | updateMembershipRole | createInstance | updateInstance | createApiToken
  | updateApiToken =>
      obtain ⟨table, -, rfl⟩ := except_map_ok hd
      exact (hchanged.not_same rfl).elim
  | _ =>
      obtain rfl := Except.ok.inj hd
      exact (hchanged.not_same rfl).elim

end admin

/-! ### Tables of invoicing -/

section invoices
variable {d d' : InvoiceDb} {e : InvoiceEnv} {op : InvoiceOp} {h : List InvoiceEvent}

/-- The caller is a member of the instance where a row of this id is. -/
def MemberAt (auth : Option AuthInfo) (dir : Directory) (id : String) : Prop :=
  ∃ p, dir.place id = some p ∧ memberOf auth p.instanceId

theorem MemberAt.at {id : String} {p : Place} (h : MemberAt auth dir id)
    (hp : dir.place id = some p) : memberOf auth p.instanceId := by
  obtain ⟨p', hp', hauth⟩ := h
  obtain rfl := Option.some.inj (hp'.symm.trans hp)
  exact hauth

theorem ReadInvoice.memberAt {id : String} {P : Invoice → Prop}
    (hread : ReadInvoice auth i h id P) (htold : ∀ ev ∈ h, dir.Tells (invoiceEvent ev)) :
    ∃ invoice, dir.place id = some invoice.place ∧ memberOf auth invoice.instanceId ∧ P invoice := by
  obtain ⟨key, invoice, hread, rfl, hauth, hP⟩ := hread
  have hinvoice : dir.IsInvoice key invoice := htold _ hread
  obtain ⟨rfl, hplace, -⟩ := hinvoice
  exact ⟨invoice, hplace, hauth, hP⟩

/-- The call has read the item as one of an instance of the caller. -/
theorem readItem_memberAt {id key : String} {item : BillableItem}
    (htold : ∀ ev ∈ h, dir.Tells (invoiceEvent ev))
    (hread : ⟨i, .getBillableItem key, .ok (some item)⟩ ∈ h) (hid : item.id = id)
    (hauth : memberOf auth item.instanceId) : MemberAt auth dir id := by
  have hitem : dir.IsItem key item := htold _ hread
  obtain ⟨rfl, hplace, -⟩ := hitem
  exact ⟨item.place, hid ▸ hplace, hauth⟩

theorem grounded_onInvoice {id : String} (hop : op.grounded auth i h) (hon : op.onInvoice = some id) :
    ∃ P, ReadInvoice auth i h id P := by
  cases op with
  | addInvoiceItems | removeInvoiceItems | deleteInvoice | finalizeInvoice | setInvoicePaid
  | setInvoicePdfKey =>
      obtain rfl := Option.some.inj hon
      exact ⟨_, hop⟩
  | _ => cases hon

theorem items_permitted (hmove : InvoiceDb.ItemsMove e d d' op) (hop : op.grounded auth i h)
    (htold : ∀ ev ∈ h, dir.Tells (invoiceEvent ev)) (hfits : d.Fits dir) (hfits' : d'.Fits dir)
    {id : String} {item : BillableItem} (hchanged : Table.Changed d.items d'.items id item) :
    memberOf auth item.instanceId := by
  suffices hmember : MemberAt auth dir id from
    hmember.at (hchanged.each hfits.items hfits'.items).2.1
  cases hmove with
  | same heq => exact (hchanged.not_same heq).elim
  | create heq =>
      obtain ⟨key, project, -, -, rfl, hauth⟩ := hop
      rw [heq] at hchanged
      obtain rfl := hchanged.insert
      have hnew : d'.items.lookup e.newId = some _ := (congrArg _ heq).trans (AList.lookup_insert _)
      exact ⟨_, (hfits'.items hnew).2.1, hauth⟩
  | edit hitem hon heq =>
      obtain ⟨key, read, hread, hid, hauth⟩ := hop
      rw [heq] at hchanged
      obtain rfl := hchanged.insert
      exact readItem_memberAt htold hread hid hauth
  | erase hitem hfree heq =>
      obtain ⟨key, read, hread, hid, hauth⟩ := hop
      rw [heq] at hchanged
      obtain rfl := hchanged.erase
      exact readItem_memberAt htold hread hid hauth
  | attachNew hall heq =>
      obtain ⟨key, project, hread, rfl, rfl, hauth⟩ := hop
      have hproject : dir.IsProject key project := htold _ hread
      obtain ⟨rfl, hinst⟩ := hproject
      rw [heq] at hchanged
      exact ⟨_, hfits.attachable_place hall hchanged.modifyAll hinst, hauth⟩
  | attach hall heq =>
      obtain ⟨invoice, hplace, hauth, rfl⟩ := ReadInvoice.memberAt hop htold
      rw [heq] at hchanged
      exact ⟨_, hfits.attachable_place hall hchanged.modifyAll (dir.place_project hplace), hauth⟩
  | @detach _ invoiceId _ hdetach hall heq =>
      have hon : op.onInvoice = some invoiceId := by
        cases op with
        | removeInvoiceItems | deleteInvoice => exact hdetach
        | _ => cases hdetach
      obtain ⟨P, hread⟩ := grounded_onInvoice hop hon
      obtain ⟨invoice, hplace, hauth, -⟩ := hread.memberAt htold
      rw [heq] at hchanged
      obtain ⟨item', hitem', hon'⟩ := InvoiceDb.attachedTo_item hall hchanged.modifyAll
      have hrow := hfits.items hitem'
      refine ⟨item'.place, hrow.2.1, ?_⟩
      rw [← Option.some.inj (hplace.symm.trans (hrow.2.2 _ hon'))]
      exact hauth

theorem invoices_permitted (hmove : InvoiceDb.InvoicesMove e d d' op) (hop : op.grounded auth i h)
    (htold : ∀ ev ∈ h, dir.Tells (invoiceEvent ev)) (hfits : d.Fits dir) (hfits' : d'.Fits dir)
    {id : String} {invoice : Invoice} (hchanged : Table.Changed d.invoices d'.invoices id invoice) :
    memberOf auth invoice.instanceId := by
  suffices hmember : MemberAt auth dir id from
    hmember.at (hchanged.each hfits.invoices hfits'.invoices).2.1
  have hnamed : ∀ {id'}, op.onInvoice = some id' → MemberAt auth dir id' := by
    intro id' hon
    obtain ⟨P, hread⟩ := grounded_onInvoice hop hon
    obtain ⟨invoice', hplace, hauth, -⟩ := hread.memberAt htold
    exact ⟨_, hplace, hauth⟩
  cases hmove with
  | same heq => exact (hchanged.not_same heq).elim
  | create hall heq =>
      obtain ⟨key, project, -, -, rfl, hauth⟩ := hop
      rw [heq] at hchanged
      obtain rfl := hchanged.insert
      have hnew : d'.invoices.lookup e.newId = some _ :=
        (congrArg _ heq).trans (AList.lookup_insert _)
      exact ⟨_, (hfits'.invoices hnew).2.1, hauth⟩
  | add hinvoice hall heq =>
      rw [heq] at hchanged
      obtain rfl := hchanged.insert
      exact hnamed rfl
  | bump hitem hon hinvoice heq =>
      obtain ⟨key, read, hread, hid, hauth⟩ := hop
      rw [heq] at hchanged
      obtain rfl := hchanged.insert
      have hrow := hfits.items hitem
      have hmember := readItem_memberAt htold hread hid hauth
      exact ⟨_, hrow.2.2 _ hon, hmember.at hrow.2.1⟩
  | change hon hinvoice heq =>
      rw [heq] at hchanged
      obtain rfl := hchanged.insert
      exact hnamed hon
  | erase heq =>
      rw [heq] at hchanged
      obtain rfl := hchanged.erase
      exact hnamed rfl

end invoices

/-! ### Tables of tickets -/

section tickets
variable {d d' : TicketDb} {e : TicketEnv} {op : TicketOp} {h : List TicketEvent}

/-- The ticket is one of an instance of the caller, or the call has opened it for its token. -/
def HandlesAt (auth : Option AuthInfo) (dir : Directory) (opened : String → Prop) (id : String) :
    Prop :=
  ∃ instanceId, dir.ticket id = some instanceId ∧ (memberOf auth instanceId ∨
    submitterOf auth instanceId ∧ opened id)

theorem HandlesAt.at {opened : String → Prop} {id instanceId : String}
    (hh : HandlesAt auth dir opened id) (hid : dir.ticket id = some instanceId) :
    memberOf auth instanceId ∨ submitterOf auth instanceId ∧ opened id := by
  obtain ⟨instanceId', hid', hauth⟩ := hh
  obtain rfl := Option.some.inj (hid'.symm.trans hid)
  exact hauth

theorem Submits.submitterOf {instanceId : String} (hs : Submits auth i h instanceId)
    (htold : ∀ ev ∈ h, dir.Tells (ticketEvent ev)) : submitterOf auth instanceId := by
  obtain ⟨key, inst, hread, rfl, hauth⟩ := hs
  have hinst : dir.IsInstance key inst := htold _ hread
  rw [hinst.1]
  exact hauth

theorem Handles.handlesAt {id : String} (hh : Handles auth i h id)
    (htold : ∀ ev ∈ h, dir.Tells (ticketEvent ev)) :
    HandlesAt auth dir (OpenedBy i (h.map ticketEvent)) id := by
  cases hh with
  | @read key ticket hread hauth =>
      have hticket : dir.IsTicket key ticket := htold _ hread
      exact ⟨ticket.instanceId, by rw [hticket.1, hticket.2], .inl hauth⟩
  | @opened instanceId subject number requesterEmails ccEmails ticket hopened hauth =>
      have hticket : dir.IsTicket ticket.id ticket ∧ ticket.instanceId = instanceId := htold _ hopened
      refine ⟨instanceId, hticket.2 ▸ hticket.1.2, .inr ⟨hauth.submitterOf htold, ?_⟩⟩
      exact ⟨instanceId, number, subject, requesterEmails, ccEmails, ticket,
        List.mem_map_of_mem hopened, rfl⟩

theorem tickets_permitted (hd : d.change e op = some d') (hop : op.authorised auth i h)
    (htold : ∀ ev ∈ h, dir.Tells (ticketEvent ev)) (hfits : d.Fits dir) (hfits' : d'.Fits dir)
    {id : String} {row : TicketRow} (hchanged : Table.Changed d.tickets d'.tickets id row) :
    memberOf auth row.record.instanceId ∨ submitterOf auth row.record.instanceId ∧
      (d.tickets.lookup id = none ∨ OpenedBy i (h.map ticketEvent) id) := by
  have hrow : dir.ticket id = some row.record.instanceId :=
    (hchanged.each hfits.tickets hfits'.tickets).2
  cases TicketDb.tickets_move hd with
  | same heq => exact (hchanged.not_same heq).elim
  | create hnew heq =>
      rw [heq] at hchanged
      obtain rfl := hchanged.insert
      have hplaced : d'.tickets.lookup e.newId = some _ :=
        (congrArg _ heq).trans (AList.lookup_insert _)
      rw [← Option.some.inj ((hfits'.tickets hplaced).2.symm.trans hrow)]
      exact .inr ⟨Submits.submitterOf hop htold, .inl hnew⟩
  | update hold heq =>
      rw [heq] at hchanged
      obtain rfl := hchanged.insert
      exact ((Handles.handlesAt hop htold).at hrow).imp_right fun hauth => ⟨hauth.1, .inr hauth.2⟩

theorem messages_permitted (hd : d.change e op = some d') (hop : op.authorised auth i h)
    (htold : ∀ ev ∈ h, dir.Tells (ticketEvent ev)) (hfits : d.Fits dir) (hfits' : d'.Fits dir)
    {id instanceId : String} {message : TicketMessage}
    (hchanged : Table.Changed d.messages d'.messages id message)
    (hticket : dir.ticket message.content.ticketId = some instanceId) :
    memberOf auth instanceId ∨ submitterOf auth instanceId ∧
      OpenedBy i (h.map ticketEvent) message.content.ticketId := by
  have hrow : dir.message id = some message.content.ticketId :=
    (hchanged.each hfits.messages hfits'.messages).2
  suffices hhandles : ∃ ticketId, dir.message id = some ticketId ∧
      HandlesAt auth dir (OpenedBy i (h.map ticketEvent)) ticketId by
    obtain ⟨ticketId, hid, hhandles⟩ := hhandles
    obtain rfl := Option.some.inj (hid.symm.trans hrow)
    exact hhandles.at hticket
  cases TicketDb.messages_move hd with
  | same heq => exact (hchanged.not_same heq).elim
  | create hnew heq =>
      rw [heq] at hchanged
      obtain rfl := hchanged.insert
      have hplaced : d'.messages.lookup e.newId = some _ :=
        (congrArg _ heq).trans (AList.lookup_insert _)
      exact ⟨_, (hfits'.messages hplaced).2, Handles.handlesAt hop htold⟩
  | update hold heq =>
      rw [heq] at hchanged
      obtain rfl := hchanged.insert
      obtain ⟨content, stored, hstored, rfl, hhandles⟩ := hop
      have hmessage : dir.IsMessage stored.id stored ∧ stored.content = content := htold _ hstored
      exact ⟨content.ticketId, hmessage.2 ▸ hmessage.1.2, hhandles.handlesAt htold⟩

theorem addresses_permitted (hd : d.change e op = some d') (hop : op.authorised auth i h)
    {address : String} {row : InboundAddress} (hrow : d'.addresses.lookup address = some row)
    (hne : d.addresses.lookup address ≠ some row) : instanceOwnerOrSuperuser auth row.instanceId := by
  rcases addresses_move hd with heq | ⟨address', instanceId, kind, rfl, heq⟩ | ⟨address', rfl, heq⟩
  · exact absurd (heq ▸ hrow) hne
  · rw [heq] at hrow
    rcases Table.lookup_insert_cases _ _ _ _ hrow with ⟨-, rfl⟩ | hold
    · exact hop
    · exact absurd hold hne
  · rw [heq] at hrow
    exact absurd (Table.lookup_of_erase _ _ _ _ hrow) hne

end tickets

/-! ### Runs -/

section runs
variable {libs : SystemLibs} {fits : Item → Bool} {readOnly : Bool} {opened : String → Prop}
variable {c c' : Pool (systemService fits readOnly) Error SystemReply} {ev : SystemEvent}

theorem Permitted.refl (s : SystemStore) : Permitted auth opened s s where
  accounts hne := (hne.elim (fun h => h rfl) fun h => h rfl).elim
  instances hchanged := (hchanged.not_same rfl).elim
  projects hchanged := (hchanged.not_same rfl).elim
  items hchanged := (hchanged.not_same rfl).elim
  invoices hchanged := (hchanged.not_same rfl).elim
  tickets hchanged := (hchanged.not_same rfl).elim
  messages hchanged := (hchanged.not_same rfl).elim
  addresses hrow hne := absurd hrow hne

theorem Permitted.mono {opened' : String → Prop} {s s' : SystemStore}
    (h : Permitted auth opened s s') (hopened : ∀ id, opened id → opened' id) :
    Permitted auth opened' s s' where
  accounts := h.accounts
  instances := h.instances
  projects := h.projects
  items := h.items
  invoices := h.invoices
  tickets hchanged :=
    (h.tickets hchanged).imp_right fun hauth => ⟨hauth.1, hauth.2.imp_right (hopened _)⟩
  messages hchanged hrow :=
    (h.messages hchanged hrow).imp_right fun hauth => ⟨hauth.1, hopened _ hauth.2⟩
  addresses := h.addresses

theorem OpenedBy.of_own {events : List SystemEvent} {id : String}
    (h : OpenedBy i (ownEvents i events) id) : OpenedBy i events id := by
  obtain ⟨instanceId, number, subject, requesterEmails, ccEmails, ticket, hmem, hid⟩ := h
  exact ⟨instanceId, number, subject, requesterEmails, ccEmails, ticket,
    List.mem_of_mem_filter hmem, hid⟩

/-- A grounded request changes only what the principal may change. -/
theorem permitted_of_move {s s' : SystemStore} {e : SystemEnv} {op : SystemOp} {call : SystemCall}
    {h : List SystemEvent} (hmove : s.Move e op s') (hop : op.grounded call i h)
    (hcall : call.isMutation) (htells : ∀ ev ∈ h, dir.Tells ev) (hfits : s.NowFits dir)
    (hfits' : s'.NowFits dir) : Permitted call.auth (OpenedBy i h) s s' := by
  obtain ⟨hadmin, hinvoices, htickets⟩ := hfits
  obtain ⟨hadmin', hinvoices', htickets'⟩ := hfits'
  have hrefl : Permitted call.auth (OpenedBy i h) s s := .refl s
  cases hmove with
  | same => exact hrefl
  | admin _ hchange =>
      obtain ⟨own, h₀, rfl, rfl, hop⟩ := hop
      have htold : ∀ ev ∈ h₀, dir.Tells (adminEvent ev) :=
        fun ev hev => htells _ (List.mem_map_of_mem hev)
      exact { hrefl with
        accounts := accounts_permitted hchange hop
        instances := instances_permitted hchange hop
        projects := projects_permitted hchange hop htold hadmin hadmin' }
  | invoice hchange =>
      obtain ⟨own, h₀, rfl, rfl, hop⟩ := hop
      have htold : ∀ ev ∈ h₀, dir.Tells (invoiceEvent ev) :=
        fun ev hev => htells _ (List.mem_map_of_mem hev)
      obtain ⟨hitems, hbills⟩ := InvoiceDb.row_moves hchange
      exact { hrefl with
        items := items_permitted hitems hop htold hinvoices hinvoices'
        invoices := invoices_permitted hbills hop htold hinvoices hinvoices' }
  | ticket hchange =>
      obtain ⟨own, h₀, rfl, rfl, -, -, hop⟩ := hop
      have htold : ∀ ev ∈ h₀, dir.Tells (ticketEvent ev) :=
        fun ev hev => htells _ (List.mem_map_of_mem hev)
      have hauth := hop hcall
      exact { hrefl with
        tickets := tickets_permitted hchange hauth htold htickets htickets'
        messages := fun hchanged hrow =>
          messages_permitted hchange hauth htold htickets htickets' hchanged (htickets'.tickets hrow).2
        addresses := addresses_permitted hchange hauth }

end runs

/-! ### A sample run -/

/-- The owner of both instances edits the item that is on the invoice. -/
def sampleEdit : SystemCall :=
  .invoice (.updateBillableItem sampleOwners "b1" ⟨"2026-07-02", "More work", "3", 700⟩)

/-- The call has read the item and the invoice. -/
def editBegun : Pool (systemService (fun _ => true) false) Error SystemReply :=
  sampleSystem.play (systemCall sampleEdit rfl :: systemServes 8 ["e1", "e2"])

/-- The write is served. -/
def editDone : Pool (systemService (fun _ => true) false) Error SystemReply :=
  editBegun.move (.serve 8 (sampleSystemEnv "e3") : SystemMove)

theorem editBegun_reachable :
    SystemReachable sampleSystemLibs (fun _ => true) false editBegun :=
  sampleSystem_reachable.trans (Pool.play_run _ _)

theorem editDone_plays : editDone.Plays 8 (sampleEdit.program sampleSystemLibs) := by
  have hbefore : sampleSystem.threads.length = 8 ∧
      sampleSystem.trace.events.all fun ev => ev.caller < 8 := by decide +kernel
  have hcallers : ∀ ev ∈ sampleSystem.trace.events, ev.caller ≠ 8 := by
    intro ev hev
    have hlt : ev.caller < 8 := of_decide_eq_true (List.all_eq_true.mp hbefore.2 ev hev)
    omega
  have hreads : Run (systemService (fun _ => true) false) (IsSystemCall sampleSystemLibs)
      (sampleSystem.move (systemCall sampleEdit rfl)) editBegun := Pool.play_run _ _
  have hrun : Run (systemService (fun _ => true) false) (IsSystemCall sampleSystemLibs)
      (sampleSystem.move (systemCall sampleEdit rfl)) editDone := hreads.trans (Pool.move_run _ _)
  exact Pool.start_plays hbefore.1 hcallers hrun

end Microticket

import Microticket.KindIsolation
import Microticket.QueryAnswers

/-! # What a request can read

Whatever objects a request reaches, field after field, while the calls go on
(`Shown.later`), a ticket and its messages are of an instance that the caller is a member
of, or of a ticket that the requester is on; notes are shown to members only.  Projects, items and
invoices are of instances of the caller, and so are the rows that a draft is printed from; addresses,
members and API tokens are those of an instance that the caller owns or administers
(`reads_confined`).  A caller without credentials sees public instances only.

Instances and users are open to any principal who comes across them: the memberships of a user who is
assigned or has written a message lead to all instances of this user. -/

namespace Microticket

open Interleaving Tables

/-! ### Confinement -/

/-- The principal may read the ticket of the instance: as a member, or as a requester who was on it in a
version of the ticket. -/
def SystemStore.ReadsTicket (s : SystemStore) (auth : Option AuthInfo) (id instanceId : String) :
    Prop :=
  memberOf auth instanceId ∨ ∃ email, auth = some (.requester email instanceId) ∧
    ∃ d row, s.tickets.db.Committed d ∧ d.tickets.lookup id = some row ∧
      email ∈ row.record.requesterEmails

/-- The project is one of the instance. -/
def SystemStore.ProjectOf (s : SystemStore) (id instanceId : String) : Prop :=
  ∃ row, s.admin.db.now.projects.lookup id = some row ∧ row.instanceId = instanceId

/-- The draft is printed from the project, the instance and items of its own. -/
def PrintsOwn (rec : Invoice) (snapshot : InvoiceSnapshot) : Prop :=
  rec.status = .draft → ∃ inst project items, snapshot = buildSnapshot inst project items none none ∧
    inst.id = rec.instanceId ∧ project.id = rec.projectId ∧
    ∀ item ∈ items, item.place = rec.place

/-- The principal may see the object. -/
def SystemStore.Confined (s : SystemStore) (auth : Option AuthInfo) : Node → Prop
  | .publicInstance name slug => ∃ d id inst, s.admin.db.Committed d ∧
      d.instances.lookup id = some inst ∧ inst.name = name ∧ inst.slug = slug ∧
      inst.publicSubmissionEnabled ∧ inst.deleted = false ∧ inst.kind = .support
  | .inst _ | .user _ | .membership .. => AuthRequirement.authenticated.admits auth
  | .address rec => instanceOwnerOrSuperuser auth rec.instanceId
  | .member instanceId .. => instanceOwnerOrSuperuser auth instanceId
  | .apiToken rec => instanceOwnerOrSuperuser auth rec.instanceId
  | .ticket rec => s.ReadsTicket auth rec.id rec.instanceId ∧
      ∃ row, s.tickets.db.now.tickets.lookup rec.id = some row ∧
        row.record.instanceId = rec.instanceId
  | .message rec => ∃ row, s.tickets.db.now.tickets.lookup rec.content.ticketId = some row ∧
      s.ReadsTicket auth rec.content.ticketId row.record.instanceId ∧
      (rec.content.kind = .note → memberOf auth row.record.instanceId)
  | .project rec => memberOf auth rec.instanceId ∧ s.ProjectOf rec.id rec.instanceId
  | .item rec _ => memberOf auth rec.instanceId ∧ s.ProjectOf rec.projectId rec.instanceId
  | .invoice rec => memberOf auth rec.instanceId ∧ s.ProjectOf rec.projectId rec.instanceId
  | .content rec snapshot => memberOf auth rec.instanceId ∧
      s.ProjectOf rec.projectId rec.instanceId ∧ PrintsOwn rec snapshot

/-- Identifiers have no separator of the markers. -/
structure PlainIds (s : SystemStore) (auth : Option AuthInfo) : Prop where
  instances : ∀ {id kind}, s.HasKind id kind → '#' ∉ id.toList
  memberships : ∀ {id}, memberOf auth id → '#' ∉ id.toList

/-! ### By the directory -/

/-- What the directory says of an object that is shown. -/
def Directory.Shows (dir : Directory) (s : SystemStore) (auth : Option AuthInfo) : Node → Prop
  | .ticket rec => s.ReadsTicket auth rec.id rec.instanceId ∧ dir.IsTicket rec.id rec
  | .message rec => ∃ instanceId, dir.ticket rec.content.ticketId = some instanceId ∧
      s.ReadsTicket auth rec.content.ticketId instanceId ∧
      (rec.content.kind = .note → memberOf auth instanceId)
  | .project rec => memberOf auth rec.instanceId ∧ dir.IsProject rec.id rec.toProject
  | .item rec parentInvoice => memberOf auth rec.instanceId ∧ dir.IsItem rec.id rec ∧
      ∀ parent ∈ parentInvoice, memberOf auth parent.instanceId ∧ dir.IsInvoice parent.id parent
  | .invoice rec => memberOf auth rec.instanceId ∧ dir.IsInvoice rec.id rec
  | .content rec snapshot => memberOf auth rec.instanceId ∧ dir.IsInvoice rec.id rec ∧
      PrintsOwn rec snapshot
  | node => s.Confined auth node

section confined
variable {s : SystemStore} {dir : Directory} {auth : Option AuthInfo}

theorem SystemStore.Fits.projectOf (h : s.Fits dir) {p : Place} {id : String}
    (hplace : dir.place id = some p) : s.ProjectOf p.projectId p.instanceId :=
  h.project (dir.place_project hplace)

theorem SystemStore.Fits.ticketRow (h : s.Fits dir) {id instanceId : String}
    (hticket : dir.ticket id = some instanceId) :
    ∃ row, s.tickets.db.now.tickets.lookup id = some row ∧ row.record.instanceId = instanceId := by
  obtain ⟨row, hrow⟩ := Option.isSome_iff_exists.mp (h.ticketRows.tickets id (by rw [hticket]; rfl))
  exact ⟨row, hrow, Option.some.inj ((h.now.tickets.tickets hrow).2.symm.trans hticket)⟩

/-- What the directory says comes true in the tables. -/
theorem SystemStore.Fits.confined (h : s.Fits dir) {node : Node} (hnode : dir.Shows s auth node) :
    s.Confined auth node := by
  cases node with
  | ticket rec => exact ⟨hnode.1, h.ticketRow hnode.2.2⟩
  | message rec =>
      obtain ⟨instanceId, hticket, hreads, hnote⟩ := hnode
      obtain ⟨row, hrow, rfl⟩ := h.ticketRow hticket
      exact ⟨row, hrow, hreads, hnote⟩
  | project rec => exact ⟨hnode.1, h.project hnode.2.2⟩
  | item rec parentInvoice => exact ⟨hnode.1, h.projectOf hnode.2.1.2.1⟩
  | invoice rec => exact ⟨hnode.1, h.projectOf hnode.2.2.1⟩
  | content rec snapshot => exact ⟨hnode.1, h.projectOf hnode.2.1.2.1, hnode.2.2⟩
  | _ => exact hnode

end confined

/-! ### Guards -/

section guards
variable {A : (op : QueryOp) → op.Res → Prop} {α : Type} {Q : α → Prop} {auth : Option AuthInfo}

theorem always_passes {requirement : AuthRequirement} {f : Unit → QueryProg α}
    (hf : requirement.admits auth → Always A Q (f ())) :
    Always A Q (passes requirement auth >>= f) := by
  refine Always.ofExcept fun _ hcheck => hf ?_
  unfold AuthRequirement.check at hcheck
  split at hcheck
  · rename_i hadmits
    exact hadmits
  · cases hcheck

theorem always_callerMemberships {f : List Membership → QueryProg α}
    (hf : ∀ memberships, (∀ id, isMember memberships id → memberOf auth id) →
      Always A Q (f memberships)) : Always A Q (callerMemberships auth >>= f) := by
  cases auth with
  | none => trivial
  | some principal =>
      cases principal with
      | user id memberships isSuperuser => exact hf memberships fun _ h => h
      | requester | apiToken => trivial

theorem admits_member (auth : Option AuthInfo) (instanceId : String) :
    (AuthRequirement.member instanceId).admits auth = memberOf auth instanceId := by
  cases auth with
  | none => rfl
  | some principal => cases principal <;> rfl

theorem admits_ownerOrSuperuser (auth : Option AuthInfo) (instanceId : String) :
    (AuthRequirement.instanceOwnerOrSuperuser instanceId).admits auth =
      instanceOwnerOrSuperuser auth instanceId := by
  cases auth with
  | none => rfl
  | some principal => cases principal <;> rfl

/-- Whoever is let through anywhere but for a token is authenticated. -/
theorem authenticated_of_admits {requirement : AuthRequirement} (h : requirement.admits auth)
    (hne : requirement ≠ .apiToken) : AuthRequirement.authenticated.admits auth := by
  cases auth with
  | none => cases requirement <;> cases h
  | some principal =>
      cases principal with
      | user | requester => rfl
      | apiToken =>
          cases requirement with
          | apiToken => exact absurd rfl hne
          | _ => cases h

theorem authenticated_of_memberOf {instanceId : String} (h : memberOf auth instanceId) :
    AuthRequirement.authenticated.admits auth :=
  authenticated_of_admits ((admits_member auth instanceId).trans h) fun heq => by cases heq

theorem authenticated_of_owner {instanceId : String}
    (h : instanceOwnerOrSuperuser auth instanceId) : AuthRequirement.authenticated.admits auth :=
  authenticated_of_admits ((admits_ownerOrSuperuser auth instanceId).trans h) fun heq => by cases heq

theorem memberOf_of_passTickets {instanceId : String} {status : TicketStatusFilter}
    (h : passTickets auth instanceId status = .ok ()) : memberOf auth instanceId := by
  cases auth with
  | none => cases h
  | some principal =>
      cases principal with
      | user id memberships isSuperuser =>
          cases hmember : isMember memberships instanceId with
          | true => exact hmember
          | false =>
              unfold passTickets passMember at h
              simp only [hmember] at h
              cases h
      | requester | apiToken => cases h

end guards

/-! ### Fields -/

section fields
variable {s : SystemStore} {dir : Directory} {libs : QueryLibs} {auth : Option AuthInfo}

/-- The field leads to objects that the directory shows. -/
abbrev LeadsWell (s : SystemStore) (dir : Directory) (auth : Option AuthInfo)
    (p : QueryProg (List Node)) : Prop :=
  Always s.Answers (fun nodes => ∀ node ∈ nodes, dir.Shows s auth node) p

theorem leadsWell_list {α : Type} {p : QueryProg (List α)} {f : α → Node}
    (hp : Always s.Answers (fun as => ∀ a ∈ as, dir.Shows s auth (f a)) p) :
    LeadsWell s dir auth (leads p (List.map f)) :=
  hp.bind fun _ has _ hnode => by
    obtain ⟨a, ha, rfl⟩ := List.mem_map.mp hnode
    exact has a ha

theorem leadsWell_option {α : Type} {p : QueryProg (Option α)} {f : α → Node}
    (hp : Always s.Answers (fun o => ∀ a ∈ o, dir.Shows s auth (f a)) p) :
    LeadsWell s dir auth (leads p fun o => o.toList.map f) :=
  hp.bind fun _ ho _ hnode => by
    obtain ⟨a, ha, rfl⟩ := List.mem_map.mp hnode
    exact ho a (Option.mem_toList.mp ha)

theorem leadsWell_one {α : Type} {p : QueryProg α} {f : α → Node}
    (hp : Always s.Answers (fun a => dir.Shows s auth (f a)) p) :
    LeadsWell s dir auth (leads p fun a => [f a]) :=
  hp.bind fun _ ha node hnode => by
    obtain rfl := List.mem_singleton.mp hnode
    exact ha

theorem leadsWell_page {α : Type} {p : QueryProg (Connection α)} {f : α → Node}
    (hp : Always s.Answers (fun page => ∀ edge ∈ page.edges, dir.Shows s auth (f edge.2)) p) :
    LeadsWell s dir auth (leads p fun page => page.edges.map fun edge => f edge.2) :=
  hp.bind fun _ hpage _ hnode => by
    obtain ⟨edge, hedge, rfl⟩ := List.mem_map.mp hnode
    exact hpage edge hedge

/-- The edges are those of rows that were found. -/
theorem mem_edges {α N : Type} {rows : List α} {size : ℕ} {isLastMode hasAfter hasBefore : Bool}
    {toEdge : α → String × N} {edge : String × N}
    (h : edge ∈ (buildConnection rows size isLastMode hasAfter hasBefore toEdge).edges) :
    ∃ row ∈ rows, toEdge row = edge := by
  unfold buildConnection at h
  dsimp only at h
  obtain ⟨row, hrow, rfl⟩ := List.mem_map.mp h
  split at hrow
  · exact ⟨row, List.mem_of_mem_take (List.mem_reverse.mp hrow), rfl⟩
  · exact ⟨row, List.mem_of_mem_take hrow, rfl⟩

end fields

/-! ### Objects -/

section objects
variable {s : SystemStore} {dir : Directory} {auth : Option AuthInfo}

theorem SystemStore.ReadsTicket.authenticated {id instanceId : String}
    (h : s.ReadsTicket auth id instanceId) : AuthRequirement.authenticated.admits auth := by
  rcases h with hmember | ⟨email, rfl, -⟩
  · exact authenticated_of_memberOf hmember
  · rfl

theorem inboundAddresses_confined (h : s.Fits dir) (rec : Instance) :
    Always s.Answers (fun rows => ∀ row ∈ rows, dir.Shows s auth (.address row))
      (Query.inboundAddresses auth rec) := by
  refine always_passes fun hadmits => (fetch_tells h _).mono fun rows hrows row hrow => ?_
  show instanceOwnerOrSuperuser auth row.instanceId
  rw [hrows row hrow]
  exact (admits_ownerOrSuperuser auth rec.id).symm.trans hadmits

theorem members_confined (rec : Instance) :
    Always s.Answers (fun rows => ∀ m ∈ rows, dir.Shows s auth (.member rec.id m.1 m.2))
      (Query.members auth rec) :=
  always_passes fun hadmits => (Always.const ((admits_ownerOrSuperuser auth rec.id).symm.trans hadmits) _).mono
    fun _ howner _ _ => howner

theorem apiTokens_confined (h : s.Fits dir) (rec : Instance) :
    Always s.Answers (fun rows => ∀ row ∈ rows, dir.Shows s auth (.apiToken row))
      (Query.apiTokens auth rec) := by
  refine always_passes fun hadmits => (fetch_tells h _).bind fun rows hrows row hrow => ?_
  show instanceOwnerOrSuperuser auth row.instanceId
  rw [hrows row (List.mem_mergeSort.mp hrow)]
  exact (admits_ownerOrSuperuser auth rec.id).symm.trans hadmits

/-- The messages of a ticket that is shown, without the notes unless the caller is a member. -/
theorem messages_confined (h : s.Fits dir) {rec : Ticket} (hrec : dir.Shows s auth (.ticket rec)) :
    Always s.Answers (fun rows => ∀ row ∈ rows, dir.Shows s auth (.message row))
      (Query.messages auth rec) := by
  refine Always.ofExcept fun showNotes hshow => (fetch_tells h _).bind fun rows hrows row hrow => ?_
  obtain ⟨hrow, hkind⟩ := List.mem_filter.mp hrow
  obtain ⟨-, hticket⟩ := hrows row hrow
  have hplace : dir.ticket row.content.ticketId = some rec.instanceId := by
    rw [hticket]
    exact hrec.2.2
  refine ⟨rec.instanceId, hplace, hticket ▸ hrec.1, fun hnote => ?_⟩
  rw [hnote] at hkind
  obtain rfl : showNotes = true := by simpa using hkind
  cases auth with
  | none => cases hshow
  | some principal =>
      cases principal with
      | user id memberships isSuperuser =>
          cases hmember : isMember memberships rec.instanceId with
          | true => exact hmember
          | false =>
              unfold Query.showNotes at hshow
              simp only [hmember] at hshow
              cases hshow
      | requester email instanceId =>
          unfold Query.showNotes at hshow
          dsimp only at hshow
          split at hshow
          · cases hshow
          · cases hshow
      | apiToken => cases hshow

/-- The project of a row that is shown. -/
theorem projectOf_confined (h : s.Fits dir) {libs : QueryLibs} {p : Place} {id : String}
    (hplace : dir.place id = some p) (hmember : memberOf auth p.instanceId) :
    Always s.Answers (fun row => dir.Shows s auth (.project row))
      (Query.projectOf libs p.projectId) := by
  refine (loadOne_tells h _ _ _).bind fun found hfound => ?_
  cases found with
  | none => trivial
  | some row =>
      have hproject : dir.IsProject p.projectId row.toProject := hfound row rfl
      have hinst : row.instanceId = p.instanceId :=
        Option.some.inj (hproject.2.symm.trans (dir.place_project hplace))
      refine ⟨?_, hproject.1.symm ▸ hproject⟩
      rw [hinst]
      exact hmember

/-- The invoice that an item is on. -/
theorem invoiceOf_confined (h : s.Fits dir) {libs : QueryLibs} {rec : BillableItem}
    {parentInvoice : Option Invoice} (hrec : dir.Shows s auth (.item rec parentInvoice)) :
    Always s.Answers (fun found => ∀ invoice ∈ found, dir.Shows s auth (.invoice invoice))
      (Query.invoiceOf libs rec parentInvoice) := by
  obtain ⟨hmember, hitem, hparent⟩ := hrec
  unfold Query.invoiceOf
  cases hon : rec.invoiceId with
  | none => exact fun invoice hinvoice => by cases hinvoice
  | some invoiceId =>
      dsimp only
      cases hfound : parentInvoice.filter fun parent => parent.id == invoiceId with
      | some parent =>
          obtain ⟨hsome, -⟩ := Option.filter_eq_some_iff.mp hfound
          intro invoice hinvoice
          obtain rfl := Option.some.inj hinvoice
          exact hparent parent hsome
      | none =>
          refine (loadOne_tells h _ _ _).mono fun found htold invoice hinvoice => ?_
          have hrow : dir.IsInvoice invoiceId invoice := htold invoice hinvoice
          have hplace : invoice.place = rec.place :=
            Option.some.inj (hrow.2.1.symm.trans (hitem.2.2 invoiceId hon))
          refine ⟨?_, hrow.1.symm ▸ hrow⟩
          rw [show invoice.instanceId = rec.instanceId from congrArg Place.instanceId hplace]
          exact hmember

/-- The items of an invoice have its project and instance. -/
theorem invoiceItems_placed (h : s.Fits dir) {rec : Invoice} (hrec : dir.IsInvoice rec.id rec) :
    Always s.Answers (fun items => ∀ item ∈ items, dir.IsItem item.id item ∧ item.place = rec.place)
      (Query.invoiceItems rec) := by
  have hreads : Always s.Answers
      (fun found => ∀ item? ∈ found, ∀ item ∈ item?, dir.IsItem item.id item ∧ item.place = rec.place)
      (Prog.forEach (fun id => fetch (.getBillableItem id)) rec.itemIds) := by
    refine Always.forEach fun id hid => (fetch_tells h _).mono fun found htold item hitem => ?_
    have hrow : dir.IsItem id item := htold item hitem
    refine ⟨hrow.1.symm ▸ hrow, ?_⟩
    exact Option.some.inj (hrow.2.1.symm.trans (hrec.2.2 id hid))
  refine hreads.bind fun found hfound item hitem => ?_
  obtain ⟨item?, hmem, hsome⟩ := List.mem_filterMap.mp hitem
  exact hfound item? hmem item hsome

theorem invoiceItems_confined (h : s.Fits dir) {rec : Invoice}
    (hrec : dir.Shows s auth (.invoice rec)) :
    Always s.Answers (fun items => ∀ item ∈ items, dir.Shows s auth (.item item (some rec)))
      (Query.invoiceItems rec) := by
  refine (invoiceItems_placed h hrec.2).mono fun items hitems item hitem => ?_
  obtain ⟨hrow, hplace⟩ := hitems item hitem
  refine ⟨?_, hrow, fun parent hparent => ?_⟩
  · rw [show item.instanceId = rec.instanceId from congrArg Place.instanceId hplace]
    exact hrec.1
  · obtain rfl := Option.some.inj hparent
    exact hrec

/-- What an invoice prints. -/
theorem effective_confined (h : s.Fits dir) {libs : QueryLibs} {rec : Invoice}
    (hrec : dir.Shows s auth (.invoice rec)) :
    Always s.Answers (fun snapshot => dir.Shows s auth (.content rec snapshot))
      (Query.effective libs rec) := by
  unfold Query.effective
  cases hstatus : rec.status with
  | finalized =>
      refine (Always.const trivial _).mono fun snapshot _ => ⟨hrec.1, hrec.2, fun hdraft => ?_⟩
      rw [hstatus] at hdraft
      cases hdraft
  | draft =>
      refine (fetch_tells h _).bind fun project? hproject =>
        Always.ofOption fun project hsome => ?_
      refine (fetch_tells h _).bind fun inst? hinst => Always.ofOption fun inst hfound => ?_
      refine (invoiceItems_placed h hrec.2).bind fun items hitems => ?_
      refine ⟨hrec.1, hrec.2, fun _ => ⟨inst, project.toProject, items, rfl, ?_, ?_, ?_⟩⟩
      · exact (hinst inst hfound).1
      · exact (hproject project hsome).1
      · exact fun item hitem => (hitems item hitem).2

/-- The fields of an object that is shown lead to objects that are shown. -/
theorem leadsWell_fields (h : s.Fits dir) {libs : QueryLibs} {node : Node}
    (hnode : dir.Shows s auth node) {p : QueryProg (List Node)} (hp : p ∈ node.fields libs auth) :
    LeadsWell s dir auth p := by
  have huser : ∀ {what id}, AuthRequirement.authenticated.admits auth →
      LeadsWell s dir auth (leads (Query.userOf libs what id) fun rec => rec.toList.map Node.user) :=
    fun hauth => leadsWell_option ((Always.const hauth _).mono fun _ hauth _ _ => hauth)
  have hinst : ∀ {instanceId}, AuthRequirement.authenticated.admits auth →
      LeadsWell s dir auth (leads (Query.instanceOf libs instanceId) fun rec => [.inst rec]) :=
    fun hauth => leadsWell_one (Always.const hauth _)
  cases node with
  | publicInstance | address | content => cases hp
  | inst rec =>
      simp only [Node.fields, List.mem_cons, List.not_mem_nil, or_false] at hp
      rcases hp with rfl | rfl | rfl
      · exact leadsWell_list (inboundAddresses_confined h rec)
      · exact leadsWell_list (members_confined rec)
      · exact leadsWell_list (apiTokens_confined h rec)
  | member instanceId rec role =>
      obtain rfl := List.mem_singleton.mp hp
      intro node hnode'
      obtain rfl := List.mem_singleton.mp hnode'
      exact authenticated_of_owner hnode
  | apiToken rec =>
      obtain rfl := List.mem_singleton.mp hp
      exact huser (authenticated_of_owner hnode)
  | user rec =>
      obtain rfl := List.mem_singleton.mp hp
      exact leadsWell_list ((Always.const hnode _).mono fun _ hauth _ _ => hauth)
  | membership row rec =>
      obtain rfl := List.mem_singleton.mp hp
      intro node hnode'
      obtain rfl := List.mem_singleton.mp hnode'
      exact hnode
  | ticket rec =>
      simp only [Node.fields, List.mem_cons, List.not_mem_nil, or_false] at hp
      rcases hp with rfl | rfl | rfl
      · exact hinst hnode.1.authenticated
      · exact huser hnode.1.authenticated
      · exact leadsWell_list (messages_confined h hnode)
  | message rec =>
      obtain rfl := List.mem_singleton.mp hp
      obtain ⟨instanceId, -, hreads, -⟩ := hnode
      exact huser hreads.authenticated
  | project rec =>
      obtain rfl := List.mem_singleton.mp hp
      exact hinst (authenticated_of_memberOf hnode.1)
  | item rec parentInvoice =>
      simp only [Node.fields, List.mem_cons, List.not_mem_nil, or_false] at hp
      rcases hp with rfl | rfl
      · exact leadsWell_one (projectOf_confined h hnode.2.1.2.1 hnode.1)
      · exact leadsWell_option (invoiceOf_confined h hnode)
  | invoice rec =>
      simp only [Node.fields, List.mem_cons, List.not_mem_nil, or_false] at hp
      rcases hp with rfl | rfl | rfl
      · exact leadsWell_one (projectOf_confined h hnode.2.2.1 hnode.1)
      · exact leadsWell_list (invoiceItems_confined h hnode)
      · exact leadsWell_one (effective_confined h hnode)

end objects

/-! ### The root -/

section root
variable {s : SystemStore} {dir : Directory} {auth : Option AuthInfo} {libs : QueryLibs}

theorem publicInstances_confined (h : s.Fits dir) :
    Always s.Answers (fun rows => ∀ rec ∈ rows, dir.Shows s auth (.publicInstance rec.name rec.slug))
      Query.publicInstances := by
  refine (fetch_tells h _).bind fun rows hrows rec hrec => ?_
  obtain ⟨hrec, htest⟩ := List.mem_filter.mp hrec
  obtain ⟨d, id, hd, hrow⟩ := hrows rec hrec
  simp only [Bool.and_eq_true, Bool.not_eq_true', beq_iff_eq] at htest
  exact ⟨d, id, rec, hd, hrow, rfl, rfl, htest.1.1, htest.1.2, htest.2⟩

/-- A row of the partitions that `tickets` reads is of the instance. -/
theorem ticket_of_holds {row : TicketRow} {instanceId : String} {status : TicketStatusFilter}
    {assignedTo : Option String} (hmarked : row.Marked)
    (hrow : '#' ∉ row.record.instanceId.toList) (hinst : '#' ∉ instanceId.toList)
    (hholds : (ticketListFilter status assignedTo).Holds instanceId row) :
    row.record.instanceId = instanceId :=
  ((ticketListFilter_holds hmarked hrow hinst assignedTo).mp hholds).1

theorem tickets_confined (h : s.Fits dir) (hplain : PlainIds s auth)
    (hmarked : ∀ d, s.tickets.db.Committed d → ∀ id row, d.tickets.lookup id = some row → row.Marked)
    (instanceId : String) (status : TicketStatusFilter) (assignedTo after before : Option String)
    (first last : Option ℤ) :
    Always s.Answers (fun page => ∀ edge ∈ page.edges, dir.Shows s auth (.ticket edge.2))
      (Query.tickets auth instanceId status assignedTo after before first last) := by
  refine Always.ofExcept fun _ hpass => Always.ofExcept fun afterCursor _ =>
    Always.ofExcept fun beforeCursor _ => Always.ofExcept fun size _ => ?_
  refine (fetch_tells h _).bind fun rows hrows edge hedge => ?_
  obtain ⟨row, hrow, rfl⟩ := mem_edges hedge
  obtain ⟨hholds, hticket, d, hd, hlookup⟩ := hrows row hrow
  have hmember := memberOf_of_passTickets hpass
  have hkind : s.HasKind row.record.instanceId .support := h.hasKind (dir.ticket_kind hticket.2)
  have hinst : row.record.instanceId = instanceId :=
    ticket_of_holds (hmarked d hd _ row hlookup) (hplain.instances hkind)
      (hplain.memberships hmember) hholds
  refine ⟨.inl ?_, hticket⟩
  rw [hinst]
  exact hmember

theorem ticket_confined (h : s.Fits dir) (id : String) :
    Always s.Answers (fun found => ∀ rec ∈ found, dir.Shows s auth (.ticket rec))
      (Query.ticket auth id) := by
  refine always_passes fun _ => (fetch_tells h _).bind fun found htold rec hrec => ?_
  obtain ⟨hsome, hvisible⟩ := Option.filter_eq_some_iff.mp hrec
  obtain ⟨hticket, d, row, hd, hrow, rfl⟩ := htold rec hsome
  refine ⟨?_, hticket.1.symm ▸ hticket⟩
  unfold Query.visible at hvisible
  cases auth with
  | none => cases hvisible
  | some principal =>
      cases principal with
      | user => exact .inl hvisible
      | requester email instanceId =>
          obtain ⟨hinst, hemail⟩ := (Bool.and_eq_true _ _).mp hvisible
          obtain rfl := eq_of_beq hinst
          refine .inr ⟨email, rfl, d, row, hd, ?_, List.contains_iff_mem.mp hemail⟩
          rw [hticket.1]
          exact hrow
      | apiToken => cases hvisible

/-- The instance that is listed, and that the caller is a member of it. -/
theorem invoicingInstance_confined (h : s.Fits dir) (instanceId : String) :
    Always s.Answers (fun inst => inst.id = instanceId ∧ memberOf auth instanceId)
      (Query.invoicingInstance libs auth instanceId) := by
  refine always_passes fun hadmits => (fetch_tells h _).bind fun found htold =>
    Always.ofOption fun inst hsome => Always.ofExcept fun _ _ => ?_
  exact ⟨(htold inst hsome).1, (admits_member auth instanceId).symm.trans hadmits⟩

theorem projects_confined (h : s.Fits dir) (instanceId : String) (includeArchived : Bool) :
    Always s.Answers (fun rows => ∀ rec ∈ rows, dir.Shows s auth (.project rec))
      (Query.projects libs auth instanceId includeArchived) := by
  refine (invoicingInstance_confined h instanceId).bind fun inst hinst =>
    (fetch_tells h _).bind fun rows hrows rec hrec => ?_
  obtain ⟨hproject, hof⟩ := hrows rec (List.mem_filter.mp (List.mem_mergeSort.mp hrec)).1
  refine ⟨?_, hproject⟩
  rw [hof]
  exact hinst.2

/-- A row is returned to members only. -/
theorem memberOnly_confined {α : Type} {instanceId : α → String} {row : Option α}
    {memberships : List Membership} (hcaller : ∀ id, isMember memberships id → memberOf auth id) :
    Always s.Answers (fun found => ∀ rec ∈ found, row = some rec ∧ memberOf auth (instanceId rec))
      (Query.memberOnly instanceId row memberships) := by
  unfold Query.memberOnly
  cases hfound : row.filter fun rec => isMember memberships (instanceId rec) with
  | none => exact fun rec hrec => by cases hrec
  | some found =>
      obtain ⟨hrow, hmember⟩ := Option.filter_eq_some_iff.mp hfound
      refine (Always.const trivial _).bind fun inst _ rec hrec => ?_
      split at hrec
      · obtain rfl := Option.some.inj hrec
        exact ⟨hrow, hcaller _ hmember⟩
      · cases hrec

theorem project_confined (h : s.Fits dir) (id : String) :
    Always s.Answers (fun found => ∀ rec ∈ found, dir.Shows s auth (.project rec))
      (Query.project auth id) := by
  refine always_passes fun _ => always_callerMemberships fun memberships hcaller =>
    (fetch_tells h _).bind fun row htold => (memberOnly_confined hcaller).mono
      fun found hfound rec hrec => ?_
  obtain ⟨hrow, hmember⟩ := hfound rec hrec
  have hproject := htold rec hrow
  exact ⟨hmember, hproject.1.symm ▸ hproject⟩

theorem invoice_confined (h : s.Fits dir) (id : String) :
    Always s.Answers (fun found => ∀ rec ∈ found, dir.Shows s auth (.invoice rec))
      (Query.invoice auth id) := by
  refine always_passes fun _ => always_callerMemberships fun memberships hcaller =>
    (fetch_tells h _).bind fun row htold => (memberOnly_confined hcaller).mono
      fun found hfound rec hrec => ?_
  obtain ⟨hrow, hmember⟩ := hfound rec hrec
  have hinvoice := htold rec hrow
  exact ⟨hmember, hinvoice.1.symm ▸ hinvoice⟩

/-- The scope is one of an instance of the caller. -/
def ScopeOf (dir : Directory) (auth : Option AuthInfo) : ListScope → Prop
  | .inst id => memberOf auth id
  | .project id => ∃ instanceId, dir.project id = some instanceId ∧ memberOf auth instanceId

theorem resolveScope_confined (h : s.Fits dir) (instanceId : String) (projectId : Option String) :
    Always s.Answers (ScopeOf dir auth) (Query.resolveScope libs auth instanceId projectId) := by
  refine (invoicingInstance_confined h instanceId).bind fun inst hinst => ?_
  cases projectId with
  | none => exact hinst.2
  | some projectId =>
      refine (fetch_tells h _).bind fun row htold => Always.ofOption fun rec hrec => ?_
      obtain ⟨hrow, hof⟩ := Option.filter_eq_some_iff.mp hrec
      refine ⟨instanceId, ?_, hinst.2⟩
      rw [← hinst.1, ← eq_of_beq hof]
      exact (htold rec hrow).2

theorem billableItems_confined (h : s.Fits dir) (instanceId : String) (projectId : Option String)
    (filter : BillableItemFilter) (first : Option ℤ) (after : Option String) :
    Always s.Answers (fun page => ∀ edge ∈ page.edges, dir.Shows s auth (.item edge.2 none))
      (Query.billableItems libs auth instanceId projectId filter first after) := by
  refine (resolveScope_confined h instanceId projectId).bind fun scope hscope =>
    Always.ofExcept fun afterCursor _ => Always.ofExcept fun size _ =>
      (fetch_tells h _).bind fun rows hrows edge hedge => ?_
  obtain ⟨item, hitem, rfl⟩ := mem_edges hedge
  obtain ⟨hrow, hvalue⟩ := hrows item hitem
  refine ⟨?_, hrow, fun parent hparent => by cases hparent⟩
  cases scope with
  | inst id =>
      rw [show item.instanceId = id from Option.some.inj hvalue]
      exact hscope
  | project id =>
      obtain ⟨instanceId', hproject, hmember⟩ := hscope
      have hplace := dir.place_project hrow.2.1
      rw [show item.place.projectId = id from Option.some.inj hvalue, hproject] at hplace
      rw [← show instanceId' = item.instanceId from Option.some.inj hplace]
      exact hmember

theorem invoices_confined (h : s.Fits dir) (instanceId : String) (projectId : Option String)
    (filter : InvoiceListFilter) (first : Option ℤ) (after : Option String) :
    Always s.Answers (fun page => ∀ edge ∈ page.edges, dir.Shows s auth (.invoice edge.2))
      (Query.invoices libs auth instanceId projectId filter first after) := by
  refine (resolveScope_confined h instanceId projectId).bind fun scope hscope =>
    Always.ofExcept fun afterCursor _ => Always.ofExcept fun size _ =>
      (fetch_tells h _).bind fun rows hrows edge hedge => ?_
  obtain ⟨invoice, hinvoice, rfl⟩ := mem_edges hedge
  obtain ⟨hrow, hvalue⟩ := hrows invoice hinvoice
  refine ⟨?_, hrow⟩
  cases scope with
  | inst id =>
      rw [show invoice.instanceId = id from Option.some.inj hvalue]
      exact hscope
  | project id =>
      obtain ⟨instanceId', hproject, hmember⟩ := hscope
      have hplace := dir.place_project hrow.2.1
      rw [show invoice.place.projectId = id from Option.some.inj hvalue, hproject] at hplace
      rw [← show instanceId' = invoice.instanceId from Option.some.inj hplace]
      exact hmember

/-- The fields of the root lead to objects that are shown. -/
theorem leadsWell_root (h : s.Fits dir) (hplain : PlainIds s auth)
    (hmarked : ∀ d, s.tickets.db.Committed d → ∀ id row, d.tickets.lookup id = some row → row.Marked)
    (field : RootField) : LeadsWell s dir auth (field.nodes libs auth) := by
  have hsuper : AuthRequirement.superuser.admits auth →
      AuthRequirement.authenticated.admits auth :=
    fun hadmits => authenticated_of_admits hadmits fun heq => by cases heq
  cases field with
  | me => exact leadsWell_one (always_passes fun hauth => Always.const hauth _)
  | inst slug =>
      exact leadsWell_option (always_passes fun hauth => (Always.const hauth _).mono
        fun _ hauth _ _ => hauth)
  | publicInstances => exact leadsWell_list (publicInstances_confined h)
  | tickets instanceId status assignedTo after before first last =>
      exact leadsWell_page (tickets_confined h hplain hmarked ..)
  | ticket id => exact leadsWell_option (ticket_confined h id)
  | projects instanceId includeArchived => exact leadsWell_list (projects_confined h ..)
  | project id => exact leadsWell_option (project_confined h id)
  | billableItems instanceId projectId filter first after =>
      exact leadsWell_page (f := fun item => Node.item item none) (billableItems_confined h ..)
  | invoices instanceId projectId filter first after => exact leadsWell_page (invoices_confined h ..)
  | invoice id => exact leadsWell_option (invoice_confined h id)
  | adminInstances | adminUsers =>
      exact leadsWell_list (always_passes fun hauth => (Always.const (hsuper hauth) _).mono
        fun _ hauth _ _ => hauth)
  | adminInstance id | adminUser id =>
      exact leadsWell_option (always_passes fun hauth => (Always.const (hsuper hauth) _).mono
        fun _ hauth _ _ => hauth)

/-- Whatever is reached is shown by the directory. -/
theorem Shown.shows {node : Node} (hshown : Shown libs auth s node) (h : s.Fits dir)
    (hplain : PlainIds s auth)
    (hmarked : ∀ d, s.tickets.db.Committed d → ∀ id row, d.tickets.lookup id = some row → row.Marked) :
    dir.Shows s auth node := by
  induction hshown with
  | root hgives hnode => exact hgives.always (leadsWell_root h hplain hmarked _) _ hnode
  | field _ hp hgives hnode ih => exact hgives.always (leadsWell_fields h ih hp) _ hnode

end root

/-! ### Runs -/

section runs
variable {calls : SystemLibs} {fits : Item → Bool} {readOnly : Bool} {libs : QueryLibs}
variable {c c' : Pool (systemService fits readOnly) Error SystemReply} {auth : Option AuthInfo}
variable {node : Node}

/-- The versions of `s` are among those of the later store `s'`. -/
structure SystemStore.Before (s s' : SystemStore) : Prop where
  admin : ∀ d, s.admin.db.Committed d → s'.admin.db.Committed d
  invoices : ∀ d, s.invoices.db.Committed d → s'.invoices.db.Committed d
  tickets : ∀ d, s.tickets.db.Committed d → s'.tickets.db.Committed d

theorem SystemStore.Before.refl (s : SystemStore) : s.Before s :=
  ⟨fun _ h => h, fun _ h => h, fun _ h => h⟩

theorem SystemStore.Before.trans {s₁ s₂ s₃ : SystemStore} (h₁ : s₁.Before s₂) (h₂ : s₂.Before s₃) :
    s₁.Before s₃ where
  admin d h := h₂.admin d (h₁.admin d h)
  invoices d h := h₂.invoices d (h₁.invoices d h)
  tickets d h := h₂.tickets d (h₁.tickets d h)

theorem SystemStore.Move.before {s s' : SystemStore} {e : SystemEnv} {op : SystemOp}
    (h : s.Move e op s') : s.Before s' := by
  cases h with
  | same => exact .refl s
  | admin => exact ⟨fun _ h => Replica.committed_write _ h, fun _ h => h, fun _ h => h⟩
  | invoice => exact ⟨fun _ h => h, fun _ h => Replica.committed_write _ h, fun _ h => h⟩
  | ticket => exact ⟨fun _ h => h, fun _ h => h, fun _ h => Replica.committed_write _ h⟩

/-- Versions are never forgotten. -/
theorem Run.before (hrun : Run (systemService fits readOnly) (IsSystemCall calls) c c') :
    SystemStore.Before c.trace.state c'.trace.state := by
  induction hrun with
  | refl => exact .refl _
  | tail _ hstep ih =>
      refine ih.trans ?_
      cases hstep with
      | start p hp => exact .refl _
      | serve i e hi he => exact (SystemStore.serve_move _ e fits readOnly _).before

/-- The versions that a read sees are there later, too. -/
theorem Replica.seen_later {D : Type} {r r' : Replica D}
    (h : ∀ d, r.Committed d → r'.Committed d) (lags : ℕ → ℕ) :
    ∃ lags' : ℕ → ℕ, ∀ n, r'.seen (lags' n) = r.seen (lags n) := by
  have hlag : ∀ n, ∃ lag, r'.seen lag = r.seen (lags n) := by
    intro n
    obtain ⟨lag, hlag⟩ := List.getElem?_of_mem (h _ (r.committed_seen (lags n)))
    refine ⟨lag, ?_⟩
    show (r'.now :: r'.past).getD lag r'.now = _
    rw [List.getD_eq_getElem?_getD, hlag]
    rfl
  exact ⟨fun n => (hlag n).choose, fun n => (hlag n).choose_spec⟩

theorem SystemStore.Before.answers {s s' : SystemStore} (h : s.Before s') {op : QueryOp}
    {r : op.Res} (hans : s.Answers op r) : s'.Answers op r := by
  obtain ⟨e, rfl⟩ := hans
  obtain ⟨adminLags, hadmin⟩ := Replica.seen_later h.admin e.lags
  obtain ⟨invoiceLags, hinvoice⟩ := Replica.seen_later h.invoices e.lags
  obtain ⟨ticketLags, hticket⟩ := Replica.seen_later h.tickets e.lags
  have hadmin' : s'.adminVersion { e with lags := adminLags } = s.adminVersion e := funext hadmin
  have hinvoice' : s'.invoiceVersion { e with lags := invoiceLags } = s.invoiceVersion e :=
    funext hinvoice
  have hticket' : s'.ticketVersion { e with lags := ticketLags } = s.ticketVersion e :=
    funext hticket
  cases op with
  | getBillableItem | listBillableItems | getInvoice | listInvoices =>
      refine ⟨{ e with lags := invoiceLags }, ?_⟩
      simp only [SystemStore.query, hinvoice'] <;> rfl
  | getTicket | listTickets | listTicketMessages | listInboundAddressesByInstance =>
      refine ⟨{ e with lags := ticketLags }, ?_⟩
      simp only [SystemStore.query, hticket'] <;> rfl
  | _ =>
      refine ⟨{ e with lags := adminLags }, ?_⟩
      simp only [SystemStore.query, hadmin'] <;> rfl

/-- What a request reaches while the run goes on is reached by reads of its last store. -/
theorem Shown.later (hshown : Shown libs auth c.trace.state node)
    (hrun : Run (systemService fits readOnly) (IsSystemCall calls) c c') :
    Shown libs auth c'.trace.state node := by
  have hbefore := Run.before hrun
  induction hshown with
  | root hgives hnode => exact .root (hgives.mono fun _ _ h => hbefore.answers h) hnode
  | field _ hp hgives hnode ih => exact .field ih hp (hgives.mono fun _ _ h => hbefore.answers h) hnode

end runs

/-! ### A sample request -/

def sampleQueryLibs : QueryLibs :=
  ⟨⟨id, id, id⟩, sampleFormat, fun _ => "error", fun _ => .error "no snapshot"⟩

/-- Reads of the last versions. -/
def freshReads : QueryEnv := ⟨fun _ => 0, fun _ => ⟨1, false⟩, 10, .none⟩

theorem sampleSystem_plainIds : PlainIds sampleSystem.trace.state sampleOwners where
  instances := by
    rintro id kind ⟨inst, hinst, -⟩
    have hrows : (SystemStore.admin sampleSystem.trace.state).db.now.instances.entries.all fun entry =>
        '#' ∉ entry.1.toList := by
      decide +kernel
    exact of_decide_eq_true (List.all_eq_true.mp hrows _ (AList.mem_lookup_iff.mp hinst))
  memberships := by
    intro id hid
    obtain ⟨m, hm, heq⟩ := List.any_eq_true.mp hid
    obtain rfl := eq_of_beq heq
    rcases List.mem_cons.mp hm with rfl | hm
    · decide
    · obtain rfl := List.mem_singleton.mp hm
      decide

end Microticket

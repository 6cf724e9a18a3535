import Microticket.AddressOwners
import Microticket.Directory

/-! # Writes that keep to the directory

A request that the directory allows leads to tables that fit the directory, once the row that it
creates is recorded (`AdminOp.Recorded` and its fellows).  New ids are not recorded before: instances,
projects, tickets and messages are never deleted and are put under the condition that the id is new
(`AdminDb.Backs`, `TicketDb.Backs`), and items and invoices get an id that was never given out. -/

namespace Microticket

open Interleaving Tables

/-! ### Administrative tables -/

/-- The instances and projects of the directory exist. -/
structure AdminDb.Backs (d : AdminDb) (dir : Directory) : Prop where
  instances : ∀ id, (dir.kind id).isSome → (d.instances.lookup id).isSome
  projects : ∀ id, (dir.project id).isSome → (d.projects.lookup id).isSome

/-- The new instance or project is recorded. -/
def AdminOp.Recorded (e : AdminEnv) (dir : Directory) : AdminOp → Prop
  | .createInstance _ _ _ _ _ kind => dir.kind e.newId = some kind
  | .createProject instanceId _ => dir.project e.newId = some instanceId
  | _ => True

theorem isSome_insert {α : Type} {t : Table String α} {k k' : String} {a : α}
    (h : k' = k ∨ (t.lookup k').isSome) : ((t.insert k a).lookup k').isSome := by
  rw [Table.lookup_insert_if]
  split
  · rfl
  · rename_i hk
    exact h.resolve_left hk

theorem not_isSome_of_none {α β : Type} {a : Option α} {b : Option β} (h : a.isSome → b.isSome)
    (hb : b = none) : a = none := by
  cases a with
  | none => rfl
  | some a =>
      rw [hb] at h
      cases h rfl

theorem InstanceUpdateShape.apply_id (change : InstanceUpdateShape) (inst : Instance) :
    (change.apply inst).id = inst.id := by
  cases change <;> rfl

theorem InstanceUpdateShape.apply_kind (change : InstanceUpdateShape) (inst : Instance) :
    (change.apply inst).kind = inst.kind := by
  cases change <;> rfl

theorem Directory.IsInstance.update {dir : Directory} {id : String} {inst : Instance}
    (h : dir.IsInstance id inst) (change : InstanceUpdateShape) :
    dir.IsInstance id (change.apply inst) :=
  ⟨(change.apply_id inst).trans h.1, by rw [change.apply_kind]; exact h.2⟩

section admin
variable {d d' : AdminDb} {e : AdminEnv} {op : AdminOp} {dir : Directory}

theorem AdminDb.Fits.change (h : d.Fits dir) (hknows : op.Knows dir) (hrecorded : op.Recorded e dir)
    (hd : d.change e op = .ok d') : d'.Fits dir := by
  cases op with
  | createInstance =>
      obtain ⟨instances, hinstances, rfl⟩ := except_map_ok hd
      obtain ⟨-, rfl⟩ := putNew_ok hinstances
      exact { h with instances := h.instances.insert ⟨rfl, hrecorded⟩ }
  | updateInstance id change =>
      obtain ⟨instances, hinstances, rfl⟩ := except_map_ok hd
      obtain ⟨row, hrow, rfl⟩ := updateRow_ok hinstances
      exact { h with instances := h.instances.replace hrow fun hold => hold.update change }
  | createApiToken =>
      obtain ⟨tokens, htokens, rfl⟩ := except_map_ok hd
      obtain ⟨-, rfl⟩ := putNew_ok htokens
      exact { h with apiTokens := h.apiTokens.insert hknows }
  | updateApiToken =>
      obtain ⟨tokens, htokens, rfl⟩ := except_map_ok hd
      obtain ⟨row, hrow, rfl⟩ := updateRow_ok htokens
      exact { h with apiTokens := h.apiTokens.replace hrow fun hold => hold }
  | deleteApiToken id =>
      obtain rfl := Except.ok.inj hd
      exact { h with apiTokens := h.apiTokens.erase id }
  | createProject =>
      obtain ⟨projects, hprojects, rfl⟩ := except_map_ok hd
      obtain ⟨-, rfl⟩ := putNew_ok hprojects
      exact { h with projects := h.projects.insert ⟨rfl, hrecorded⟩ }
  | updateProject =>
      obtain ⟨projects, hprojects, rfl⟩ := except_map_ok hd
      obtain ⟨row, hrow, rfl⟩ := updateRow_ok hprojects
      exact { h with projects := h.projects.replace hrow fun hold => hold }
  | updateUser | updateMembershipRole =>
      obtain ⟨table, -, rfl⟩ := except_map_ok hd
      exact ⟨h.instances, h.projects, h.apiTokens⟩
  | _ =>
      obtain rfl := Except.ok.inj hd
      exact ⟨h.instances, h.projects, h.apiTokens⟩

/-- What is there stays there. -/
theorem AdminDb.Backs.change (h : d.Backs dir) (hd : d.change e op = .ok d') : d'.Backs dir := by
  cases op with
  | createInstance | updateInstance =>
      obtain ⟨instances, hinstances, rfl⟩ := except_map_ok hd
      refine { h with instances := fun id hid => ?_ }
      first
        | obtain ⟨-, rfl⟩ := putNew_ok hinstances
        | obtain ⟨row, -, rfl⟩ := updateRow_ok hinstances
      exact isSome_insert (.inr (h.instances id hid))
  | createProject | updateProject =>
      obtain ⟨projects, hprojects, rfl⟩ := except_map_ok hd
      refine { h with projects := fun id hid => ?_ }
      first
        | obtain ⟨-, rfl⟩ := putNew_ok hprojects
        | obtain ⟨row, -, rfl⟩ := updateRow_ok hprojects
      exact isSome_insert (.inr (h.projects id hid))
  | updateUser | updateMembershipRole | createApiToken | updateApiToken =>
      obtain ⟨table, -, rfl⟩ := except_map_ok hd
      exact ⟨h.instances, h.projects⟩
  | _ =>
      obtain rfl := Except.ok.inj hd
      exact ⟨h.instances, h.projects⟩

/-- A write leads to tables that fit a directory with its new row. -/
theorem AdminDb.Fits.write (h : d.Fits dir) (hbacks : d.Backs dir) (hknows : op.Knows dir)
    (hd : d.change e op = .ok d') : ∃ dir', dir.Le dir' ∧ d'.Fits dir' ∧ d'.Backs dir' ∧
      dir'.place = dir.place ∧ dir'.ticket = dir.ticket ∧ dir'.message = dir.message := by
  cases op with
  | createInstance name slug fromName signature publicSubmissionEnabled kind =>
      obtain ⟨instances, hinstances, rfl⟩ := except_map_ok hd
      obtain ⟨hnone, rfl⟩ := putNew_ok hinstances
      have hnew := not_isSome_of_none (hbacks.instances e.newId) hnone
      have hle : dir.Le (dir.addInstance e.newId kind hnew) := Directory.le_addInstance hnew
      refine ⟨_, hle, (h.mono hle).change (hknows.mono hle) Register.record_self hd, ⟨fun id hid => ?_, ?_⟩,
        rfl, rfl, rfl⟩
      · exact isSome_insert ((Register.isSome_record hid).imp_right (hbacks.instances id))
      · exact (hbacks.change hd).projects
  | createProject instanceId fields =>
      obtain ⟨projects, hprojects, rfl⟩ := except_map_ok hd
      obtain ⟨hnone, rfl⟩ := putNew_ok hprojects
      have hnew := not_isSome_of_none (hbacks.projects e.newId) hnone
      have hle := Directory.le_addProject hknows hnew
      refine ⟨_, hle, (h.mono hle).change (hknows.mono hle) Register.record_self hd, ⟨?_, fun id hid => ?_⟩,
        rfl, rfl, rfl⟩
      · exact (hbacks.change hd).instances
      · exact isSome_insert ((Register.isSome_record hid).imp_right (hbacks.projects id))
  | _ => exact ⟨dir, .refl dir, h.change hknows trivial hd, hbacks.change hd, rfl, rfl, rfl⟩

end admin

/-! ### Tables of invoicing -/

/-- The new item or invoice is recorded. -/
def InvoiceOp.Recorded (e : InvoiceEnv) (dir : Directory) : InvoiceOp → Prop
  | .createBillableItem instanceId projectId .. | .createInvoice instanceId projectId .. =>
      dir.place e.newId = some ⟨projectId, instanceId⟩
  | _ => True

section invoices
variable {d d' : InvoiceDb} {e : InvoiceEnv} {op : InvoiceOp} {dir : Directory}

/-- The items that are put on an invoice are of its project. -/
theorem InvoiceDb.Fits.attachable_place (h : d.Fits dir) {projectId instanceId id : String}
    {ids : List String} (hall : ids.all (d.attachable projectId)) (hid : id ∈ ids)
    (hproject : dir.project projectId = some instanceId) :
    dir.place id = some ⟨projectId, instanceId⟩ := by
  obtain ⟨item, hitem, -, rfl⟩ := InvoiceDb.attachable_item hall hid
  have hplace := (h.items hitem).2.1
  have hown := dir.place_project hplace
  rw [show item.place.projectId = item.projectId from rfl, hproject] at hown
  rw [hplace, Option.some.inj hown]
  rfl

/-- Items of the project of an invoice are put on it. -/
theorem InvoiceDb.Fits.attach (h : d.Fits dir) {invoiceId projectId instanceId : String}
    {ids : List String} (hall : ids.all (d.attachable projectId))
    (hinvoice : dir.place invoiceId = some ⟨projectId, instanceId⟩) :
    Table.Each (d.attach invoiceId ids) dir.IsItem := by
  have hproject : dir.project projectId = some instanceId := dir.place_project hinvoice
  have hplace : Table.Each d.items fun id item =>
      dir.IsItem id item ∧ (id ∈ ids → item.place = ⟨projectId, instanceId⟩) := by
    intro id item hitem
    refine ⟨h.items hitem, fun hid => ?_⟩
    have hrecorded := h.attachable_place hall hid hproject
    exact Option.some.inj ((h.items hitem).2.1.symm.trans hrecorded)
  have hattached : Table.Each (d.attach invoiceId ids) fun id item =>
      dir.IsItem id item ∧ (id ∈ ids → item.place = ⟨projectId, instanceId⟩) := by
    refine hplace.modifyAll fun id hid item hitem => ⟨⟨hitem.1.1, hitem.1.2.1, ?_⟩, hitem.2⟩
    intro invoiceId' hon
    obtain rfl := Option.some.inj hon
    exact hinvoice.trans (congrArg some (hitem.2 hid).symm)
  exact hattached.mono fun _ _ hitem => hitem.1

theorem InvoiceDb.Fits.detach (h : d.Fits dir) (ids : List String) :
    Table.Each (d.detach ids) dir.IsItem :=
  h.items.modifyAll fun _ _ _ hitem => ⟨hitem.1, hitem.2.1, fun _ hon => by cases hon⟩

theorem InvoiceDb.Fits.items_move (h : d.Fits dir) (hknows : op.Knows dir)
    (hrecorded : op.Recorded e dir) (hmove : InvoiceDb.ItemsMove e d d' op) :
    Table.Each d'.items dir.IsItem := by
  cases hmove with
  | same heq =>
      rw [heq]
      exact h.items
  | create heq =>
      rw [heq]
      exact h.items.insert ⟨rfl, hrecorded, fun _ hon => by cases hon⟩
  | edit hitem hon heq =>
      rw [heq]
      exact h.items.replace hitem fun hold => hold
  | erase hitem hfree heq =>
      rw [heq]
      exact h.items.erase _
  | attachNew hall heq =>
      rw [heq]
      exact h.attach hall hrecorded
  | attach hall heq =>
      obtain ⟨instanceId, hplace⟩ := hknows
      rw [heq]
      exact h.attach hall hplace
  | detach hop hall heq =>
      rw [heq]
      exact h.detach _

theorem InvoiceDb.Fits.invoices_move (h : d.Fits dir) (hknows : op.Knows dir)
    (hrecorded : op.Recorded e dir) (hmove : InvoiceDb.InvoicesMove e d d' op) :
    Table.Each d'.invoices dir.IsInvoice := by
  cases hmove with
  | same heq =>
      rw [heq]
      exact h.invoices
  | create hall heq =>
      rw [heq]
      exact h.invoices.insert
        ⟨rfl, hrecorded, fun id hid => h.attachable_place hall hid hknows⟩
  | add hinvoice hall heq =>
      obtain ⟨instanceId, hplace⟩ := hknows
      rw [heq]
      refine h.invoices.replace hinvoice fun hold => ⟨hold.1, hold.2.1, fun id hid => ?_⟩
      rcases List.mem_append.mp hid with hid | hid
      · exact hold.2.2 id hid
      · have hitem := h.attachable_place hall (List.mem_of_mem_filter hid)
          (dir.place_project hplace)
        rw [hitem, ← hplace]
        exact hold.2.1
  | bump hitem hon hinvoice heq =>
      rw [heq]
      exact h.invoices.replace hinvoice fun hold => hold
  | change hop hinvoice heq hid hproject hinstance hitems =>
      rw [heq]
      refine h.invoices.replace hinvoice fun hold => ?_
      have hplace : Invoice.place _ = Invoice.place _ := congrArg₂ Place.mk hproject hinstance
      refine ⟨hid.trans hold.1, hold.2.1.trans (congrArg some hplace.symm), fun id hmem => ?_⟩
      exact (hold.2.2 id (hitems hmem)).trans (congrArg some hplace.symm)
  | erase heq =>
      rw [heq]
      exact h.invoices.erase _

/-- A write leads to tables that fit a directory with its new row. -/
theorem InvoiceDb.Fits.write (h : d.Fits dir) (hnew : dir.place e.newId = none)
    (hknows : op.Knows dir) (hd : d.change e op = some d') :
    ∃ dir', dir.Le dir' ∧ d'.Fits dir' ∧
      (∀ id, (dir'.place id).isSome → id = e.newId ∨ (dir.place id).isSome) ∧
      dir'.kind = dir.kind ∧ dir'.project = dir.project ∧ dir'.ticket = dir.ticket ∧
      dir'.message = dir.message := by
  obtain ⟨hitems, hinvoices⟩ := InvoiceDb.row_moves hd
  have hfits : ∀ {dir'}, dir.Le dir' → op.Recorded e dir' → d'.Fits dir' := by
    intro dir' hle hrecorded
    exact ⟨(h.mono hle).items_move (hknows.mono hle) hrecorded hitems,
      (h.mono hle).invoices_move (hknows.mono hle) hrecorded hinvoices⟩
  cases op with
  | createBillableItem instanceId projectId | createInvoice instanceId projectId =>
      have hproject : dir.project (Place.mk projectId instanceId).projectId = some instanceId := hknows
      have hle := Directory.le_addPlace hproject hnew
      refine ⟨_, hle, hfits hle Register.record_self, ?_, rfl, rfl, rfl, rfl⟩
      exact fun id hid => Register.isSome_record hid
  | _ => exact ⟨dir, .refl dir, hfits (.refl dir) trivial, fun _ hid => .inr hid, rfl, rfl, rfl, rfl⟩

end invoices

/-! ### Tables of tickets -/

/-- The tickets and messages of the directory exist. -/
structure TicketDb.Backs (d : TicketDb) (dir : Directory) : Prop where
  tickets : ∀ id, (dir.ticket id).isSome → (d.tickets.lookup id).isSome
  messages : ∀ id, (dir.message id).isSome → (d.messages.lookup id).isSome

/-- The new ticket or message is recorded. -/
def TicketOp.Recorded (e : TicketEnv) (dir : Directory) : TicketOp → Prop
  | .createTicket instanceId .. => dir.ticket e.newId = some instanceId
  | .createTicketMessage content => dir.message e.newId = some content.ticketId
  | _ => True

section tickets
variable {d d' : TicketDb} {e : TicketEnv} {op : TicketOp} {dir : Directory}

theorem Directory.IsTicket.same {row row' : TicketRow} {id : String}
    (h : dir.IsTicket id row.record) (hsame : row.Same row') : dir.IsTicket id row'.record :=
  ⟨hsame.id.trans h.1, h.2.trans (congrArg some hsame.instanceId.symm)⟩

theorem Directory.IsMessage.same {m m' : TicketMessage} {id : String} (h : dir.IsMessage id m)
    (hsame : m.Same m') : dir.IsMessage id m' :=
  ⟨hsame.id.trans h.1,
    h.2.trans (congrArg (fun content => some content.ticketId) hsame.content.symm)⟩

theorem TicketDb.Fits.change (h : d.Fits dir) (hknows : op.Knows dir) (hrecorded : op.Recorded e dir)
    (hd : d.change e op = some d') : d'.Fits dir where
  tickets := by
    cases TicketDb.tickets_move hd with
    | same heq =>
        rw [heq]
        exact h.tickets
    | create hnew heq =>
        rw [heq]
        exact h.tickets.insert ⟨rfl, hrecorded⟩
    | update hrow heq =>
        rw [heq]
        exact h.tickets.replace hrow fun hold => hold.same (TicketRow.same_update _ _)
  messages := by
    cases TicketDb.messages_move hd with
    | same heq =>
        rw [heq]
        exact h.messages
    | create hnew heq =>
        rw [heq]
        exact h.messages.insert ⟨rfl, hrecorded⟩
    | update hm heq =>
        rw [heq]
        exact h.messages.replace hm fun hold => hold.same (TicketMessage.same_update _ _)
  addresses := by
    rcases addresses_move hd with heq | ⟨address, instanceId, kind, rfl, heq⟩ | ⟨address, rfl, heq⟩
    · rw [heq]
      exact h.addresses
    · rw [heq]
      exact h.addresses.insert ⟨rfl, hknows⟩
    · rw [heq]
      exact h.addresses.erase address

/-- What is there stays there. -/
theorem TicketDb.Backs.change (h : d.Backs dir) (hd : d.change e op = some d') : d'.Backs dir where
  tickets id hid := by
    obtain ⟨row, hrow⟩ := Option.isSome_iff_exists.mp (h.tickets id hid)
    obtain ⟨row', hrow', -⟩ := (TicketDb.later_change hd).ticket hrow
    exact Option.isSome_iff_exists.mpr ⟨row', hrow'⟩
  messages id hid := by
    obtain ⟨m, hm⟩ := Option.isSome_iff_exists.mp (h.messages id hid)
    obtain ⟨m', hm', -⟩ := (TicketDb.later_change hd).message hm
    exact Option.isSome_iff_exists.mpr ⟨m', hm'⟩

/-- A write leads to tables that fit a directory with its new row. -/
theorem TicketDb.Fits.write (h : d.Fits dir) (hbacks : d.Backs dir) (hknows : op.Knows dir)
    (hd : d.change e op = some d') : ∃ dir', dir.Le dir' ∧ d'.Fits dir' ∧ d'.Backs dir' ∧
      dir'.kind = dir.kind ∧ dir'.project = dir.project ∧ dir'.place = dir.place := by
  have hkept := hbacks.change hd
  cases op with
  | createTicket instanceId =>
      simp only [TicketDb.change, Option.ite_none_right_eq_some, Option.isNone_iff_eq_none,
        Option.some.injEq] at hd
      obtain ⟨hnone, hd'⟩ := hd
      have hnew := not_isSome_of_none (hbacks.tickets e.newId) hnone
      have hle := Directory.le_addTicket hknows hnew
      refine ⟨_, hle, (h.mono hle).change (hknows.mono hle) Register.record_self ?_,
        ⟨fun id hid => ?_, hkept.messages⟩, rfl, rfl, rfl⟩
      · rw [TicketDb.change, if_pos (Option.isNone_iff_eq_none.mpr hnone), hd']
      · rw [← hd']
        exact isSome_insert ((Register.isSome_record hid).imp_right (hbacks.tickets id))
  | createTicketMessage content =>
      simp only [TicketDb.change, Option.ite_none_right_eq_some, Option.isNone_iff_eq_none,
        Option.some.injEq] at hd
      obtain ⟨hnone, hd'⟩ := hd
      have hnew := not_isSome_of_none (hbacks.messages e.newId) hnone
      have hle := Directory.le_addMessage hknows hnew
      refine ⟨_, hle, (h.mono hle).change (hknows.mono hle) Register.record_self ?_,
        ⟨hkept.tickets, fun id hid => ?_⟩, rfl, rfl, rfl⟩
      · rw [TicketDb.change, if_pos (Option.isNone_iff_eq_none.mpr hnone), hd']
      · rw [← hd']
        exact isSome_insert ((Register.isSome_record hid).imp_right (hbacks.messages id))
  | _ => exact ⟨dir, .refl dir, h.change hknows trivial hd, hkept, rfl, rfl, rfl⟩

end tickets

end Microticket

import Microticket.MailIsolation
import Microticket.TicketRules

/-! # Markers of tickets

The attributes `instance_status`, `instance_visible` and `instance_assignee` of a ticket are keys of
the indexes that the ticket lists are read from.  `TicketUpdateShape.expression` is the text that
`update_ticket` sends, and `reads_update` says that it does to the stored item what
`TicketRow.update` does to the row.

In every version that is ever committed the markers are those of the plain attributes
(`ticket_markers`): the only writes of the status name the instance that the caller knows the ticket
to be of, by `orderly_call`, and the invariant of `TicketInvariant` says that the row is still of it. -/

namespace Microticket

open Interleaving Tables RustText

/-! ### Update expressions -/

/-- The update expression of `update_ticket`. -/
def TicketUpdateShape.expression : TicketUpdateShape → UpdateExpression
  | .setStatusAndAssignee instanceId status assigneeUserId now =>
      let markers := computeTicketMarkers instanceId status assigneeUserId
      let drop (name : String) (value : Option String) : List String :=
        if value.isNone then [name] else []
      { sets := [("status", .s status.asStr), ("updated_at", .n now), ("last_activity_at", .n now),
          ("instance_status", .s markers.instanceStatus)] ++
          Item.optional "assignee_user_id" .s assigneeUserId ++
          Item.optional "instance_visible" .s markers.instanceVisible ++
          Item.optional "instance_assignee" .s markers.instanceAssignee
        removes := drop "assignee_user_id" assigneeUserId ++
          drop "instance_visible" markers.instanceVisible ++
          drop "instance_assignee" markers.instanceAssignee
        adds := []
        deletes := [] }
  | .addRequester email now => ⟨stamp now, [], [("requester_emails", email)], []⟩
  | .removeRequester email now => ⟨stamp now, [], [], [("requester_emails", email)]⟩
  | .addCc email now => ⟨stamp now, [], [("cc_emails", email)], []⟩
  | .removeCc email now => ⟨stamp now, [], [], [("cc_emails", email)]⟩
  | .touch now => ⟨stamp now, [], [], []⟩
  | .markHasAttachments => ⟨[("has_attachments", .bool true)], [], [], []⟩
where
  stamp (now : ℕ) : Item := [("updated_at", .n now), ("last_activity_at", .n now)]

section attributes

/-- The fields of a ticket. -/
def TicketRow.fields (row : TicketRow) : List Field :=
  [("id", some (.s row.record.id)), ("instance_id", some (.s row.record.instanceId)),
    ("number", some (.n row.record.number)), ("subject", some (.s row.record.subject)),
    ("status", some (.s row.record.status.asStr)),
    ("instance_status", some (.s row.markers.instanceStatus)),
    ("instance_number", some (.s row.instanceNumber)),
    ("reply_token", some (.s row.record.replyToken)),
    ("created_at", some (.n row.record.createdAt)), ("updated_at", some (.n row.record.updatedAt)),
    ("last_activity_at", some (.n row.record.lastActivityAt)),
    ("instance_visible", row.markers.instanceVisible.map .s),
    ("instance_assignee", row.markers.instanceAssignee.map .s),
    ("assignee_user_id", row.record.assigneeUserId.map .s),
    ("requester_emails", setValue row.record.requesterEmails),
    ("cc_emails", setValue row.record.ccEmails),
    ("has_attachments", flagValue row.record.hasAttachments)]

theorem TicketRow.item_eq (row : TicketRow) : row.item = Item.ofFields row.fields := by
  have hmap : ∀ {name : String} {value : Option String},
      Item.optional name AttributeValue.s value = Item.optional name id (value.map .s) := by
    intro name value
    cases value <;> rfl
  have hset : ∀ {name : String} {members : List String},
      Item.stringSet name members = Item.optional name id (setValue members) := by
    intro name members
    cases members <;> rfl
  unfold TicketRow.item
  rw [hmap, hmap, hmap, hset, hset]
  simp only [Item.ofFields, TicketRow.fields, List.flatMap_cons, List.flatMap_nil, List.append_assoc]
  cases row.record.hasAttachments <;> rfl

theorem TicketRow.reads (row : TicketRow) : row.item.Reads row.fields := by
  rw [row.item_eq]
  exact Item.reads_ofFields (by simp [TicketRow.fields])

section updates
variable {row : TicketRow} {item : Item}

/-- The item after the activity is stamped. -/
theorem reads_stamped (row : TicketRow) (now : ℕ) :
    ((row.item.put "updated_at" (some (.n now))).put "last_activity_at" (some (.n now))).Reads
      (row.update (.touch now)).fields := by
  have hfields : (row.update (.touch now)).fields = putField "last_activity_at" (some (.n now))
      (putField "updated_at" (some (.n now)) row.fields) := by
    simp [putField, TicketRow.fields, TicketRow.update]
  rw [hfields]
  exact (row.reads.put rfl).put rfl

theorem fields_requesters (emails : List String) :
    TicketRow.fields { row with record := { row.record with requesterEmails := emails } } =
      putField "requester_emails" (setValue emails) row.fields := by
  simp [putField, TicketRow.fields]

theorem fields_ccs (emails : List String) :
    TicketRow.fields { row with record := { row.record with ccEmails := emails } } =
      putField "cc_emails" (setValue emails) row.fields := by
  simp [putField, TicketRow.fields]

/-- Each of the seven fields is set or removed. -/
theorem putFields_setStatusAndAssignee (row : TicketRow) (instanceId : String)
    (status : TicketStatus) (assigneeUserId : Option String) (now : ℕ) :
    (TicketUpdateShape.setStatusAndAssignee instanceId status assigneeUserId
      now).expression.putFields row.fields =
      (row.update (.setStatusAndAssignee instanceId status assigneeUserId now)).fields := by
  cases assigneeUserId <;> cases status <;>
    simp [TicketUpdateShape.expression, UpdateExpression.putFields, TicketRow.fields,
      TicketRow.update, putField, computeTicketMarkers, Item.optional]

theorem reads_setStatusAndAssignee (row : TicketRow) (instanceId : String) (status : TicketStatus)
    (assigneeUserId : Option String) (now : ℕ) :
    ((TicketUpdateShape.setStatusAndAssignee instanceId status assigneeUserId now).expression.apply
      row.item).Reads
        (row.update (.setStatusAndAssignee instanceId status assigneeUserId now)).fields := by
  rw [← putFields_setStatusAndAssignee]
  refine row.reads.apply _ rfl rfl ?_ ?_
  · cases assigneeUserId <;> cases status <;>
      simp [TicketUpdateShape.expression, TicketRow.fields, computeTicketMarkers, Item.optional]
  · cases assigneeUserId <;> cases status <;>
      simp [TicketUpdateShape.expression, TicketRow.fields, computeTicketMarkers]

/-- The update expression does to the item what the update does to the row. -/
theorem reads_update (row : TicketRow) (change : TicketUpdateShape) :
    (change.expression.apply row.item).Reads (row.update change).fields := by
  cases change with
  | touch now => exact reads_stamped row now
  | addRequester email now =>
      have h := (reads_stamped row now).addMember "requester_emails" email
        row.record.requesterEmails rfl
      rw [← fields_requesters] at h
      exact h
  | removeRequester email now =>
      have h := (reads_stamped row now).deleteMember "requester_emails" email
        row.record.requesterEmails rfl
      rw [← fields_requesters] at h
      exact h
  | addCc email now =>
      have h := (reads_stamped row now).addMember "cc_emails" email
        row.record.ccEmails rfl
      rw [← fields_ccs] at h
      exact h
  | removeCc email now =>
      have h := (reads_stamped row now).deleteMember "cc_emails" email
        row.record.ccEmails rfl
      rw [← fields_ccs] at h
      exact h
  | markHasAttachments =>
      have hfields : (row.update .markHasAttachments).fields =
          putField "has_attachments" (some (.bool true)) row.fields := by
        simp [putField, TicketRow.fields, TicketRow.update, flagValue]
      rw [hfields]
      exact row.reads.put rfl
  | setStatusAndAssignee instanceId status assigneeUserId now =>
      exact reads_setStatusAndAssignee row instanceId status assigneeUserId now

/-- The same, attribute by attribute. -/
theorem attribute_update (row : TicketRow) (change : TicketUpdateShape) (name : String) :
    (change.expression.apply row.item).attribute name = (row.update change).item.attribute name := by
  rw [reads_update row change name, (row.update change).reads name]

end updates

/-! ### Marked rows -/

/-- The markers are those of the instance, the status and the assignee. -/
def TicketRow.Marked (row : TicketRow) : Prop :=
  row.markers =
    computeTicketMarkers row.record.instanceId row.record.status row.record.assigneeUserId

/-- The markers of an item are those of its plain attributes. -/
def MarkedItem (item : Item) : Prop :=
  ∃ instanceId status assigneeUserId, ∃ markers : TicketMarkers,
    markers = computeTicketMarkers instanceId status assigneeUserId ∧
    item.attribute "instance_id" = some (.s instanceId) ∧
    item.attribute "status" = some (.s (TicketStatus.asStr status)) ∧
    item.attribute "assignee_user_id" = assigneeUserId.map .s ∧
    item.attribute "instance_status" = some (.s markers.instanceStatus) ∧
    item.attribute "instance_visible" = markers.instanceVisible.map .s ∧
    item.attribute "instance_assignee" = markers.instanceAssignee.map .s

theorem TicketRow.Marked.item {row : TicketRow} (h : row.Marked) : MarkedItem row.item := by
  refine ⟨row.record.instanceId, row.record.status, row.record.assigneeUserId, row.markers, h,
    row.reads _, row.reads _, ?_, row.reads _, ?_, ?_⟩
  · exact (row.reads _).trans (Option.join_some)
  · exact (row.reads _).trans (Option.join_some)
  · exact (row.reads _).trans (Option.join_some)

/-- The attributes that name a ticket. -/
def identifying : List String := ["id", "instance_id", "number", "reply_token", "instance_number"]

theorem TicketRow.Same.item {row row' : TicketRow} (h : row.Same row') {name : String}
    (hname : name ∈ identifying) : row'.item.attribute name = row.item.attribute name := by
  rw [row'.reads name, row.reads name]
  simp only [identifying, List.mem_cons, List.not_mem_nil, or_false] at hname
  rcases hname with rfl | rfl | rfl | rfl | rfl
  · show some (AttributeValue.s row'.record.id) = _
    rw [h.id]
    rfl
  · show some (AttributeValue.s row'.record.instanceId) = _
    rw [h.instanceId]
    rfl
  · show some (AttributeValue.n row'.record.number) = _
    rw [h.number]
    rfl
  · show some (AttributeValue.s row'.record.replyToken) = _
    rw [h.replyToken]
    rfl
  · show some (AttributeValue.s row'.instanceNumber) = _
    rw [h.instanceNumber]
    rfl

/-- A change that gives the ticket's own instance keeps a row marked. -/
theorem TicketRow.Marked.update {row : TicketRow} (h : row.Marked) {change : TicketUpdateShape}
    (hchange : ∀ instanceId status assigneeUserId now,
      change = .setStatusAndAssignee instanceId status assigneeUserId now →
        row.record.instanceId = instanceId) : (row.update change).Marked := by
  cases change with
  | setStatusAndAssignee instanceId status assigneeUserId now =>
      obtain rfl := hchange _ _ _ _ rfl
      rfl
  | _ => exact h

end attributes

/-! ### Runs -/

section runs
variable {fits : Item → Bool} {readOnly : Bool} {t : Trace (ticketService fits readOnly)}
variable {i : ℕ} {h : List TicketEvent} {libs : MailLibs}
variable {c c' : Pool (ticketService fits readOnly) Error Reply}

/-- A ticket that a call knows to be of an instance is a row of it. -/
theorem Owned.row {id inst : String} (hown : Owned i h id inst) (hinv : TicketInvariant t)
    (hsub : ∀ ev ∈ h, ev ∈ t.events) :
    ∃ row, (dbOf t).now.tickets.lookup id = some row ∧ row.record.instanceId = inst := by
  cases hown with
  | read hrow =>
      obtain ⟨rfl, row, hnow, hinst, -, -⟩ := hinv.ticket_now (hsub _ hrow)
      exact ⟨row, hnow, hinst⟩
  | numbered hids hid hrow =>
      obtain ⟨rfl, row, hnow, hinst, -, -⟩ := hinv.ticket_now (hsub _ hrow)
      exact ⟨row, hnow, hinst.trans (hinv.numbered (hsub _ hids) hid (hsub _ hrow))⟩

/-- Every row of every committed version is marked. -/
def AllMarked (t : Trace (ticketService fits readOnly)) : Prop :=
  ∀ d, (dbOf t).Committed d → ∀ id row, d.tickets.lookup id = some row → row.Marked

theorem AllMarked.serve {e : TicketEnv} {op : TicketOp} (h : AllMarked t)
    (hinv : TicketInvariant t) (hop : op.ordered i (ownEvents i t.events)) :
    AllMarked (t.serve i e op) := by
  intro d hd id row hrow
  rcases dbOf_serve t i e op with ⟨hdb, -⟩ | ⟨d', hchange, -, hdb, -⟩
  · rw [hdb] at hd
    exact h d hd id row hrow
  rw [hdb] at hd
  rcases List.mem_cons.mp hd with rfl | hd
  · have hnow := h _ (Replica.committed_now _)
    cases TicketDb.tickets_move hchange with
    | same heq => exact hnow id row (heq ▸ hrow)
    | create hnew heq =>
        rw [heq, Table.lookup_insert_if] at hrow
        split at hrow
        · cases hrow
          rfl
        · exact hnow id row hrow
    | @update id' change row' hrow' heq =>
        rw [heq, Table.lookup_insert_if] at hrow
        split at hrow
        · cases hrow
          refine (hnow _ _ hrow').update ?_
          rintro instanceId status assigneeUserId now rfl
          obtain ⟨row'', hrow'', hinst⟩ := Owned.row hop hinv
            fun ev hev => (mem_ownEvents.mp hev).1
          obtain rfl := Option.some.inj (hrow'.symm.trans hrow'')
          exact hinst
        · exact hnow id row hrow
  · exact h d hd id row hrow

theorem all_marked (hreach : TicketReachable (IsTicketCall libs) c) : AllMarked c.trace := by
  obtain ⟨instances, addresses, hrun⟩ := hreach
  refine (Run.contract (K := fun t => TicketInvariant t ∧ AllMarked t)
    (G := fun i h op => op.ordered i h) ?_ ?_ hrun ⟨.init instances addresses, ?_⟩).2
  · rintro p ⟨call, rfl⟩ i
    exact (orderly_call call i).mono (fun _ _ hop => hop.1) fun _ _ h => h
  · intro t i e op h _ hop
    exact ⟨h.1.serve, h.2.serve h.1 hop⟩
  · intro d hd id row hrow
    obtain rfl := List.mem_singleton.mp hd
    cases hrow

/-- The markers of every ticket are those of its instance, status and assignee, and what names a
ticket never changes. -/
theorem ticket_markers (hreach : TicketReachable (IsTicketCall libs) c) :
    (∀ d, (dbOf c.trace).Committed d → ∀ id row, d.tickets.lookup id = some row →
      MarkedItem row.item) ∧
    ∀ c', Run (ticketService fits readOnly) (IsTicketCall libs) c c' → ∀ id row,
      (dbOf c.trace).now.tickets.lookup id = some row →
      ∃ row', (dbOf c'.trace).now.tickets.lookup id = some row' ∧
        ∀ name ∈ identifying, row'.item.attribute name = row.item.attribute name := by
  refine ⟨fun d hd id row hrow => (all_marked hreach d hd id row hrow).item, ?_⟩
  intro c' hrun id row hrow
  obtain ⟨row', hrow', hsame⟩ := (hreach.later hrun).ticket hrow
  exact ⟨row', hrow', fun name hname => hsame.item hname⟩

end runs

theorem ticket_markers_sample : ∃ row,
    (dbOf (ticketPool ticketOpened).trace).now.tickets.lookup "r8" = some row ∧
    MarkedItem row.item := by
  have hrow : ((dbOf (ticketPool ticketOpened).trace).now.tickets.lookup "r8").isSome := by
    decide +kernel
  obtain ⟨row, hrow⟩ := Option.isSome_iff_exists.mp hrow
  exact ⟨row, hrow, (ticket_markers (ticketPool_reachable _)).1 _ (Replica.committed_now _) _ _ hrow⟩

end Microticket

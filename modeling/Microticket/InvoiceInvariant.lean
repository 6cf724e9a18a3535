import Microticket.InvoiceLedger

/-! # What holds of the invoicing tables along every run

`invoiceDiscipline` is the rely–guarantee argument for all the mutations at once.

* Invariant (`InvoiceStore.Sound`): the ledger of the tables is consistent, rows are stored under
  their own ids, and the ids of all invoices have been minted.
* Rely (`InvoiceStore.Evolves`): for every invoice id ever minted the ledger `Follows`, and no
  committed version is forgotten.
* Precondition: `InvoiceOp.Guarded`, and for the final write of `finalizeInvoice` that its snapshot
  is fresh (`InvoiceOp.SnapshotFresh`).

A mutation that reads an invoice knows it as long as its version has not changed (`Knows`); this
is what makes the guard true when the write is served (`invoice_starts`). -/

namespace Microticket

open Interleaving Tables

/-! ### Invariant and rely -/

/-- The invariant. -/
structure InvoiceStore.Sound (s : InvoiceStore) : Prop where
  consistent : s.db.now.ledger.Consistent maxInvoiceItems
  minted : ∀ {id invoice}, s.db.now.invoices.lookup id = some invoice → id ∈ s.minted
  keyed : s.db.now.Keyed

/-- What one program may rely on the others for. -/
structure InvoiceStore.Evolves (s s' : InvoiceStore) : Prop where
  minted : ∀ {id}, id ∈ s.minted → id ∈ s'.minted
  follows : ∀ {id}, id ∈ s.minted → Ledger.Follows id s.db.now.ledger s'.db.now.ledger
  versions : ∀ {d}, s.db.Committed d → s'.db.Committed d

theorem InvoiceStore.Evolves.refl (s : InvoiceStore) : s.Evolves s :=
  ⟨id, fun _ => .refl _ _, id⟩

theorem InvoiceStore.Evolves.trans {s₁ s₂ s₃ : InvoiceStore} (h₁ : s₁.Evolves s₂)
    (h₂ : s₂.Evolves s₃) : s₁.Evolves s₃ :=
  ⟨fun h => h₂.minted (h₁.minted h), fun h => (h₁.follows h).trans (h₂.follows (h₁.minted h)),
    fun h => h₂.versions (h₁.versions h)⟩

/-! ### Fresh snapshots -/

/-- `rows` are the item rows of the invoice, each once. -/
structure InvoiceDb.ItemsOf (d : InvoiceDb) (invoiceId : String) (rows : List BillableItem) :
    Prop where
  nodup : (rows.map BillableItem.id).Nodup
  mem : ∀ row, row ∈ rows ↔
    (∃ id, d.items.lookup id = some row) ∧ row.invoiceId = some invoiceId

/-- The snapshot that a finalize request carries is that of the invoice's current item rows, of a
committed row of its instance and of one of its project. -/
def InvoiceOp.SnapshotFresh (libs : InvoiceLibs) (s : InvoiceStore) : InvoiceOp → Prop
  | .finalizeInvoice invoiceId version number issueDate snapshotJson totalCents _ =>
      ∀ invoice, s.db.now.draftAt invoiceId version = some invoice → ∃ inst project rows,
        (∃ d, s.db.Committed d ∧ d.instances.lookup invoice.instanceId = some inst) ∧
        (∃ d, s.db.Committed d ∧ d.projects.lookup invoice.projectId = some project) ∧
        s.db.now.ItemsOf invoiceId rows ∧
        libs.toJson (buildSnapshot inst project rows (some number) (some issueDate)) =
          .ok snapshotJson ∧
        totalCents = (buildSnapshot inst project rows (some number) (some issueDate)).totalCents
  | _ => True

/-! ### The discipline -/

section
variable {readOnly : Bool} {s : InvoiceStore} {e : InvoiceEnv} {op : InvoiceOp}

/-- A guarded request keeps the invariant and moves along the rely. -/
theorem InvoiceStore.Sound.serve (h : s.Sound) (readOnly : Bool) (he : e.newId ∉ s.minted)
    (hg : op.Guarded s.db.now) :
    (s.serve e readOnly op).2.Sound ∧ s.Evolves (s.serve e readOnly op).2 := by
  rcases InvoiceStore.serve_state readOnly s e op with heq | ⟨hw, d, hd, heq⟩
  · rw [heq]
    exact ⟨h, .refl s⟩
  · rw [heq]
    have hm := change_step hd hw hg h.consistent
    have hnone : ∀ {id}, id ∈ s.minted → s.db.now.ledger.boxes id = none →
        d.ledger.boxes id = none := by
      intro id hid hb
      have hne : id ≠ e.newId := fun h => he (h ▸ hid)
      simp only [InvoiceDb.ledger, Option.map_eq_none_iff] at hb ⊢
      exact hm.created hne hb
    refine ⟨⟨?_, ?_, hm.keyed h.keyed⟩, ⟨List.mem_cons_of_mem _, ?_, Replica.committed_write _⟩⟩
    · rcases hm.ledger with hl | hl
      · exact hl ▸ h.consistent
      · exact hl.consistent h.consistent
    · intro id invoice hl
      by_cases hid : id = e.newId
      · exact hid ▸ List.mem_cons_self
      · refine List.mem_cons_of_mem _ ?_
        rcases hold : s.db.now.invoices.lookup id with _ | old
        · rw [Replica.write_now, hm.created hid hold] at hl
          cases hl
        · exact h.minted hold
    · intro id hid
      rcases hm.ledger with hl | hl
      · exact hl ▸ .refl _ _
      · exact hl.follows h.consistent (hnone hid)

/-- A request that finalizes an invoice is the finalize write of this invoice. -/
theorem InvoiceStore.Sound.closes (h : s.Sound) (hg : op.Guarded s.db.now) {id : String}
    {invoice : Invoice}
    (hl : (s.serve e readOnly op).2.db.now.invoices.lookup id = some invoice)
    (hf : invoice.status = .finalized) (hnew : ¬ s.db.now.Finalized id) :
    op.Closes s.db.now id invoice := by
  rcases InvoiceStore.serve_state readOnly s e op with heq | ⟨hw, d, hd, heq⟩
  · rw [heq] at hl
    exact absurd ⟨invoice, hl, hf⟩ hnew
  · rw [heq] at hl
    exact ((change_step hd hw hg h.consistent).closed hl hf).resolve_left hnew

end

/-- The rely–guarantee discipline of the invoicing mutations. -/
def invoiceDiscipline (libs : InvoiceLibs) (readOnly : Bool) :
    Discipline (invoiceService readOnly) where
  Inv t := InvoiceStore.Sound t.state
  Rely _ t t' := InvoiceStore.Evolves t.state t'.state
  Pre _ t op := op.Guarded (InvoiceStore.db t.state).now ∧ op.SnapshotFresh libs t.state
  refl _ _ := .refl _
  trans := .trans
  inv_step h he hp := (h.serve readOnly he hp.1).1
  rely_step _ h he hp := (h.serve readOnly he hp.1).2

/-! ### What a reader knows -/

/-- A mutation that read `invoice`, and since then the item rows `rows`, knows all of it as long as
the invoice has the version it read. -/
structure Knows (invoice : Invoice) (rows : List (String × Option BillableItem))
    (s : InvoiceStore) : Prop where
  minted : invoice.id ∈ s.minted
  read : Ledger.ReadAt invoice.id invoice.box
    (rows.map fun row => (row.1, row.2.map BillableItem.entry)) s.db.now.ledger

section
variable {invoice : Invoice} {rows : List (String × Option BillableItem)} {s s' : InvoiceStore}

theorem Knows.evolves (h : Knows invoice rows s) (he : s.Evolves s') : Knows invoice rows s' :=
  ⟨he.minted h.minted, h.read.follows (he.follows h.minted)⟩

theorem Knows.start {id : String} (hs : s.Sound)
    (h : s.db.now.invoices.lookup id = some invoice) : Knows invoice [] s := by
  obtain rfl := hs.keyed.invoices h
  exact ⟨hs.minted h, .start (InvoiceDb.ledger_boxes_of h)⟩

theorem Knows.readItem (h : Knows invoice rows s) (id : String) :
    Knows invoice (rows ++ [(id, s.db.now.items.lookup id)]) s := by
  refine ⟨h.minted, ?_⟩
  simp only [List.map_append, List.map_cons, List.map_nil]
  exact h.read.read id

/-- At the version that was read, everything that was read is current. -/
theorem Knows.current (h : Knows invoice rows s) {invoice' : Invoice}
    (hat : s.db.now.draftAt invoice.id invoice.version = some invoice') :
    invoice'.box = invoice.box ∧
      ∀ row ∈ rows, row.1 ∈ invoice.itemIds → s.db.now.items.lookup row.1 = row.2 := by
  obtain ⟨hl, -, hv⟩ := draftAt_eq_some.mp hat
  obtain ⟨hbox, hrows⟩ := (h.read _ (InvoiceDb.ledger_boxes_of hl)).2 hv
  refine ⟨hbox, fun row hrow hmem => ?_⟩
  have := hrows _ (List.mem_map_of_mem hrow) hmem
  exact Option.map_injective BillableItem.entry_injective this

theorem Knows.itemIds (h : Knows invoice rows s) {invoice' : Invoice}
    (hat : s.db.now.draftAt invoice.id invoice.version = some invoice') :
    invoice'.itemIds = invoice.itemIds := congrArg Ledger.Box.members (h.current hat).1

theorem Knows.projectId (h : Knows invoice rows s) {invoice' : Invoice}
    (hat : s.db.now.draftAt invoice.id invoice.version = some invoice') :
    invoice'.projectId = invoice.projectId := congrArg Ledger.Box.group (h.current hat).1

theorem Knows.instanceId (h : Knows invoice rows s) {invoice' : Invoice}
    (hat : s.db.now.draftAt invoice.id invoice.version = some invoice') :
    invoice'.instanceId = invoice.instanceId :=
  congrArg (fun box => (Ledger.Box.data box).instanceId) (h.current hat).1

end

/-! ### Rules for the mutations -/

section
variable {libs : InvoiceLibs} {readOnly : Bool} {i : ℕ} {α β : Type}
variable {t : Trace (invoiceService readOnly)}

/-- Requests that may be sent at any time. -/
def InvoiceOp.Unguarded (libs : InvoiceLibs) (op : InvoiceOp) : Prop :=
  ∀ d s, op.Guarded d ∧ op.SnapshotFresh libs s

theorem InvoiceOp.Plain.unguarded {op : InvoiceOp} (h : op.Plain) : op.Unguarded libs := by
  intro d s
  cases op <;> first | exact ⟨trivial, trivial⟩ | exact ⟨h, trivial⟩ | exact h.elim

theorem InvoiceOp.IsRead.unguarded {op : InvoiceOp} (h : op.IsRead) : op.Unguarded libs :=
  h.plain.unguarded

theorem InvoiceOp.IsRead.state {op : InvoiceOp} (h : op.IsRead) (s : InvoiceStore)
    (e : InvoiceEnv) : (s.serve e readOnly op).2 = s := by
  cases op <;> first | rfl | exact h.elim

/-- A program of unguarded requests keeps what is stable. -/
theorem safe_unguarded {p : InvoiceProg α} (hp : p.All (InvoiceOp.Unguarded libs))
    {K : InvoiceStore → Prop} (hK : ∀ {s s'}, K s → InvoiceStore.Evolves s s' → K s')
    (h : K t.state) :
    (invoiceDiscipline libs readOnly).Safe i p (fun _ t' => K t'.state) t := by
  have hK' : (fun t' : Trace (invoiceService readOnly) => K t'.state) t := h
  exact Assertions.Safe.stable (fun hop _ _ => hop _ _) (fun h he => hK h he)
    (fun {_ t' _} hop h hs hnew => hK h (InvoiceStore.Sound.serve hs readOnly hnew (hop _ t'.state).1).2)
    hp hK'

/-- One request: its precondition, and what follows from its answer. -/
theorem safe_request {A : Assertions (invoiceService readOnly)} {op : InvoiceOp}
    {Q : Except Error op.Ret → Trace (invoiceService readOnly) → Prop}
    (hpre : ∀ t₁, A.Rely i t t₁ → A.Inv t₁ → A.Pre i t₁ op)
    (hok : ∀ t₁, A.Rely i t t₁ → A.Inv t₁ → ∀ e : InvoiceEnv,
      e.newId ∉ InvoiceStore.minted t₁.state → ∀ a,
      (InvoiceStore.serve t₁.state e readOnly op).1 = .ok a → Q (.ok a) (t₁.serve i e op))
    (herr : ∀ e t₁, Q (.error e) t₁) : A.Safe i (request op) Q t := by
  intro t₁ he hi
  refine ⟨hpre t₁ he hi, fun e hnew => ?_⟩
  rcases hr : (InvoiceStore.serve t₁.state e readOnly op).1 with err | a
  · exact herr _ _
  · exact hok t₁ he hi e hnew a hr

/-- A read request: the state is unchanged, and the answer is what it returns then. -/
theorem safe_read {op : InvoiceOp} (hop : op.IsRead)
    {Q : Except Error op.Ret → Trace (invoiceService readOnly) → Prop}
    (hok : ∀ t₁ : Trace (invoiceService readOnly), InvoiceStore.Evolves t.state t₁.state →
      InvoiceStore.Sound t₁.state → ∀ e a, (InvoiceStore.serve t₁.state e readOnly op).1 = .ok a →
      ∀ t₂, t₂.state = t₁.state → Q (.ok a) t₂)
    (herr : ∀ e t₁, Q (.error e) t₁) :
    (invoiceDiscipline libs readOnly).Safe i (request op) Q t :=
  safe_request (fun _ _ _ => hop.unguarded _ _)
    (fun t₁ he hs e _ a ha => hok t₁ he hs e a ha _ (hop.state t₁.state e)) herr

/-- A program of unguarded requests is secure. -/
theorem secure_unguarded {p : InvoiceProg α} (hp : p.All (InvoiceOp.Unguarded libs)) :
    (invoiceDiscipline libs readOnly).Secure i p t :=
  .of_all (fun _ h _ _ => h _ _) hp t

/-- A write whose precondition is known, with no request after it. -/
theorem secure_write {op : InvoiceOp} {f : op.Ret → InvoiceProg α}
    (hpre : ∀ t₁ : Trace (invoiceService readOnly), InvoiceStore.Evolves t.state t₁.state →
      InvoiceStore.Sound t₁.state →
      op.Guarded (InvoiceStore.db t₁.state).now ∧ op.SnapshotFresh libs t₁.state)
    (hf : ∀ a, (f a).All (InvoiceOp.Unguarded libs)) :
    (invoiceDiscipline libs readOnly).Secure i (request op >>= f) t := by
  intro t₁ he hs
  refine ⟨hpre t₁ he hs, fun e _ => secure_unguarded (.bind ?_ hf)⟩
  generalize ((invoiceService readOnly).serve t₁.state e op).1 = r
  cases r <;> trivial

/-- After `require_invoice_member` the caller knows the invoice. -/
theorem safe_requireInvoiceMember (auth : Option AuthInfo) (id : String) :
    (invoiceDiscipline libs readOnly).Safe i (requireInvoiceMember auth id)
      (fun r t' => ∀ invoice, r = .ok invoice → Knows invoice [] t'.state) t := by
  unfold requireInvoiceMember requireUser
  split
  · rename_i memberships _
    rw [Prog.done_bind]
    have hget : (invoiceDiscipline libs readOnly).Safe i (request (.getInvoiceConsistent id))
        (fun r t' => ∀ invoice, r = .ok (some invoice) → Knows invoice [] t'.state) t := by
      have hop : (InvoiceOp.getInvoiceConsistent id).IsRead := trivial
      refine safe_read hop (fun t₁ _ hs e a ha t₂ ht₂ invoice hinv => ?_)
        fun _ _ _ h => by cases h
      obtain rfl := Except.ok.inj hinv
      rw [ht₂]
      exact .start hs (InvoiceStore.read_ok ha)
    refine hget.bind (fun o t₁ h => ?_) (fun _ _ _ _ h => by cases h)
    refine .ofOption (fun invoice ho => .ensure (fun _ => ?_) fun _ _ h => by cases h)
      fun _ _ h => by cases h
    subst ho
    intro invoice' h'
    obtain rfl := Except.ok.inj h'
    exact h invoice rfl
  · intro invoice h
    cases h

theorem secure_addInvoiceItems (auth : Option AuthInfo) (id : String) (itemIds : List String) :
    (invoiceDiscipline libs readOnly).Secure i (addInvoiceItems auth id itemIds) t := by
  unfold addInvoiceItems
  refine (safe_requireInvoiceMember auth id).bind (fun invoice t₁ h => ?_) fun _ _ _ => trivial
  have hk := h invoice rfl
  refine .ensure (fun _ => .ofExcept (fun newIds hids => ?_) fun _ _ => trivial) fun _ => trivial
  obtain ⟨rfl, hn, hnew, hlen⟩ := validateNewInvoiceItemIds_ok hids
  have hread : ∀ {γ : Type} {p : InvoiceProg γ} {t' : Trace (invoiceService readOnly)},
      p.All (InvoiceOp.Unguarded libs) → Knows invoice [] t'.state →
      (invoiceDiscipline libs readOnly).Safe i p (fun _ t'' => Knows invoice [] t''.state) t' :=
    fun hp h => safe_unguarded hp .evolves h
  refine (hread (all_fetchEligibleItems (fun _ h => h.unguarded) _ _) hk).bind (fun newItems t₂ hk => ?_)
    fun _ _ _ => trivial
  refine (hread (all_getBillableItems (fun _ h => h.unguarded) _) hk).bind (fun existing t₃ hk => ?_)
    fun _ _ _ => trivial
  refine (hread (all_requireInstance (fun _ h => h.unguarded) _) hk).bind (fun inst t₄ hk => ?_)
    fun _ _ _ => trivial
  refine .ofExcept (fun _ _ => ?_) fun _ _ => trivial
  refine secure_write (fun t₅ he _ => ⟨fun invoice' hat => ?_, trivial⟩)
    fun _ => .bind (Prog.all_ensure _ _) fun _ => trivial
  have hk := hk.evolves he
  exact ⟨(hk.projectId hat).symm, hk.itemIds hat ▸ hnew, hk.itemIds hat ▸ hlen⟩

theorem secure_deleteInvoice (auth : Option AuthInfo) (id : String) :
    (invoiceDiscipline libs readOnly).Secure i (deleteInvoice auth id) t := by
  unfold deleteInvoice
  refine (safe_requireInvoiceMember auth id).bind (fun invoice t₁ h => ?_) fun _ _ _ => trivial
  refine .ensure (fun _ => ?_) fun _ => trivial
  refine secure_write (fun t₂ he _ => ⟨fun invoice' hat => ?_, trivial⟩)
    fun _ => .bind (Prog.all_ensure _ _) fun _ => trivial
  rw [((h invoice rfl).evolves he).itemIds hat]
  exact fun _ h => h

/-- Reading the items of a known invoice, one at a time. -/
theorem safe_getBillableItemsConsistent {invoice : Invoice} (ids : List String)
    {rows : List (String × Option BillableItem)} (h : Knows invoice rows t.state) :
    (invoiceDiscipline libs readOnly).Safe i (getBillableItemsConsistent ids)
      (fun r t' => ∀ fetched, r = .ok fetched →
        fetched.length = ids.length ∧ Knows invoice (rows ++ ids.zip fetched) t'.state) t := by
  induction ids generalizing rows t with
  | nil =>
      intro fetched hf
      obtain rfl := Except.ok.inj hf
      simpa using h
  | cons id ids ih =>
      have hget : (invoiceDiscipline libs readOnly).Safe i
          (request (.getBillableItemConsistent id)) (fun r t' => ∀ item, r = .ok item →
            Knows invoice (rows ++ [(id, item)]) t'.state) t := by
        have hop : (InvoiceOp.getBillableItemConsistent id).IsRead := trivial
        refine safe_read hop (fun t₁ he hs e a ha t₂ ht₂ item hitem => ?_)
          fun _ _ _ h => by cases h
        obtain rfl := Except.ok.inj hitem
        obtain rfl := InvoiceStore.read_ok ha
        rw [ht₂]
        exact (h.evolves he).readItem id
      refine hget.bind (fun item t₁ h₁ => ?_) fun _ _ _ _ h => by cases h
      refine (ih (h₁ item rfl)).bind (fun rest t₂ h₂ => ?_) fun _ _ _ _ h => by cases h
      intro fetched hf
      obtain rfl := Except.ok.inj hf
      obtain ⟨hlen, hk⟩ := h₂ rest rfl
      exact ⟨by simp [hlen], by simpa using hk⟩

/-- The items that step 2 of `finalize_invoice` accepts are those that were read, and all of them
point back. -/
theorem resolveItems_ok {invoiceId : String} {rows : List (String × Option BillableItem)}
    {items : List BillableItem} (h : resolveItems invoiceId rows = .ok items) :
    rows.map Prod.snd = items.map some ∧ ∀ item ∈ items, item.invoiceId = some invoiceId := by
  induction rows generalizing items with
  | nil => simp_all [resolveItems]
  | cons row rows ih =>
      obtain ⟨id, _ | item⟩ := row
      · cases h
      · simp only [resolveItems] at h
        split at h
        · cases h
        · rename_i hid
          rcases hr : resolveItems invoiceId rows with e | rest
          · simp [hr, Except.map] at h
          · obtain ⟨hmap, hall⟩ := ih hr
            obtain rfl : item :: rest = items := by simpa [hr, Except.map] using h
            exact ⟨by simp [hmap], by simpa using ⟨not_not.mp hid, hall⟩⟩

/-- The items that were read are the item rows of the invoice, if its version is unchanged. -/
theorem Knows.itemsOf {s : InvoiceStore} {invoice : Invoice} {fetched : List (Option BillableItem)}
    {items : List BillableItem} (h : Knows invoice (invoice.itemIds.zip fetched) s) (hs : s.Sound)
    (hlen : fetched.length = invoice.itemIds.length)
    (hr : resolveItems invoice.id (invoice.itemIds.zip fetched) = .ok items) {invoice' : Invoice}
    (hat : s.db.now.draftAt invoice.id invoice.version = some invoice') :
    s.db.now.ItemsOf invoice.id items := by
  obtain ⟨hmap, hall⟩ := resolveItems_ok hr
  obtain rfl : fetched = items.map some := by
    rw [← hmap, List.map_snd_zip hlen.le]
  have hlen' : items.length = invoice.itemIds.length := by simpa using hlen
  obtain ⟨hl, -, -⟩ := draftAt_eq_some.mp hat
  have hget : ∀ (j : ℕ) (hj : j < items.length) (hj' : j < invoice.itemIds.length),
      s.db.now.items.lookup invoice.itemIds[j] = some items[j] := by
    intro j hj hj'
    refine (h.current hat).2 (invoice.itemIds[j], some items[j]) ?_ (List.getElem_mem _)
    rw [List.mem_iff_getElem]
    exact ⟨j, by simpa using ⟨hj', hj⟩, by simp⟩
  have hids : items.map BillableItem.id = invoice.itemIds := by
    refine List.ext_getElem (by simpa using hlen') fun j hj hj' => ?_
    rw [List.getElem_map]
    exact hs.keyed.items (hget j (by simpa using hj) hj')
  refine ⟨?_, fun row => ⟨fun hrow => ?_, fun ⟨⟨id, hid⟩, ho⟩ => ?_⟩⟩
  · rw [hids, ← h.itemIds hat]
    exact hs.consistent.nodup (InvoiceDb.ledger_boxes_of hl)
  · obtain ⟨j, hj, rfl⟩ := List.getElem_of_mem hrow
    exact ⟨⟨_, hget j hj (hlen' ▸ hj)⟩, hall _ hrow⟩
  · obtain ⟨box, hb, hmem⟩ := hs.consistent.owner (InvoiceDb.ledger_items_of hid) ho
    obtain rfl := Option.some.inj ((InvoiceDb.ledger_boxes_of hl).symm.trans hb)
    rw [Invoice.box_members, h.itemIds hat] at hmem
    obtain ⟨j, hj, rfl⟩ := List.getElem_of_mem hmem
    have := (hget j (hlen' ▸ hj) hj).symm.trans hid
    exact Option.some.inj this ▸ List.getElem_mem _

/-- What `finalize_invoice` knows when it allocates the number: the invoice, its item rows, and that
the project and the instance are rows that were committed. -/
structure Prepared (invoice : Invoice) (items : List BillableItem) (inst : Instance)
    (project : Project) (s : InvoiceStore) : Prop where
  knows : ∃ fetched, Knows invoice (invoice.itemIds.zip fetched) s ∧
    fetched.length = invoice.itemIds.length ∧
    resolveItems invoice.id (invoice.itemIds.zip fetched) = .ok items
  inst : ∃ d, s.db.Committed d ∧ d.instances.lookup invoice.instanceId = some inst
  project : ∃ d, s.db.Committed d ∧ d.projects.lookup invoice.projectId = some project

theorem Prepared.evolves {invoice : Invoice} {items : List BillableItem} {inst : Instance}
    {project : Project} {s s' : InvoiceStore} (h : Prepared invoice items inst project s)
    (he : s.Evolves s') : Prepared invoice items inst project s' := by
  obtain ⟨⟨fetched, hk, hr⟩, ⟨d, hd, hi⟩, ⟨d', hd', hp⟩⟩ := h
  exact ⟨⟨fetched, hk.evolves he, hr⟩, ⟨d, he.versions hd, hi⟩, ⟨d', he.versions hd', hp⟩⟩

theorem secure_allocateAndFinalize {invoice : Invoice} {items : List BillableItem}
    {inst : Instance} {project : Project} (userId issueDate : String)
    (h : Prepared invoice items inst project t.state) :
    (invoiceDiscipline libs readOnly).Secure i
      (allocateAndFinalize libs invoice userId issueDate inst project items) t := by
  have hincr : (request (.incrementInvoiceCounter invoice.instanceId)).All
      (InvoiceOp.Unguarded libs) := all_request fun _ _ => ⟨trivial, trivial⟩
  refine (safe_unguarded hincr .evolves h).bind (fun allocated t₁ h₁ => ?_) fun _ _ _ => trivial
  refine .ofExcept (fun _ _ => .ofExcept (fun json hjson => ?_) fun _ _ => trivial)
    fun _ _ => trivial
  refine secure_write (fun t₂ he hs => ⟨trivial, fun invoice' hat => ?_⟩)
    fun _ => .bind (Prog.all_ensure _ _) fun _ => trivial
  obtain ⟨⟨fetched, hk, hlen, hr⟩, hi, hp⟩ := h₁.evolves he
  refine ⟨inst, project, items, ?_, ?_, hk.itemsOf hs hlen hr hat, ?_, rfl⟩
  · exact hk.instanceId hat ▸ hi
  · exact hk.projectId hat ▸ hp
  · rcases hj : libs.toJson (buildSnapshot inst project items (some (numberOfCounter allocated))
      (some issueDate)) with e | json'
    · rw [hj] at hjson
      cases hjson
    · rw [hj] at hjson
      exact congrArg Except.ok (Except.ok.inj hjson)

theorem secure_finalizeInvoice (auth : Option AuthInfo) (id issueDate : String) :
    (invoiceDiscipline libs readOnly).Secure i (finalizeInvoice libs auth id issueDate) t := by
  unfold finalizeInvoice
  refine (safe_requireInvoiceMember auth id).bind (fun invoice t₁ h => ?_) fun _ _ _ => trivial
  have huser : (requireUser auth).All (InvoiceOp.Unguarded libs) := all_requireUser auth
  refine (safe_unguarded huser .evolves (h invoice rfl)).bind (fun user t₂ hk => ?_)
    fun _ _ _ => trivial
  refine .ensure (fun _ => .ensure (fun _ => .ofExcept (fun issueDate _ => ?_) fun _ _ => trivial)
    fun _ => trivial) fun _ => trivial
  refine (safe_getBillableItemsConsistent invoice.itemIds hk).bind (fun fetched t₃ h₃ => ?_)
    fun _ _ _ => trivial
  obtain ⟨hlen, hk⟩ := h₃ fetched rfl
  rw [List.nil_append] at hk
  refine .ofExcept (fun items hr => ?_) fun _ _ => trivial
  have hproject : (invoiceDiscipline libs readOnly).Safe i (request (.getProject invoice.projectId))
      (fun r t' => ∀ project, r = .ok (some project) →
        Knows invoice (invoice.itemIds.zip fetched) t'.state ∧
          ∃ d, (InvoiceStore.db t'.state).Committed d ∧
            d.projects.lookup invoice.projectId = some project) t₃ := by
    have hop : (InvoiceOp.getProject invoice.projectId).IsRead := trivial
    refine safe_read hop (fun t' he _ e a ha t'' ht'' project hp => ?_) fun _ _ _ h => by cases h
    obtain rfl := Except.ok.inj hp
    rw [ht'']
    exact ⟨hk.evolves he, _, Replica.committed_seen _ e.lag, InvoiceStore.read_ok ha⟩
  refine hproject.bind (fun o t₄ h₄ => ?_) fun _ _ _ => trivial
  refine .ofOption (fun project ho => ?_) fun _ => trivial
  subst ho
  obtain ⟨hk, hp⟩ := h₄ project rfl
  have hinst : (invoiceDiscipline libs readOnly).Safe i (request (.getInstance invoice.instanceId))
      (fun r t' => ∀ inst, r = .ok (some inst) → Prepared invoice items inst project t'.state)
      t₄ := by
    have hop : (InvoiceOp.getInstance invoice.instanceId).IsRead := trivial
    refine safe_read hop (fun t' he _ e a ha t'' ht'' inst hi => ?_) fun _ _ _ h => by cases h
    obtain rfl := Except.ok.inj hi
    obtain ⟨d, hd, hl⟩ := hp
    rw [ht'']
    exact ⟨⟨fetched, hk.evolves he, hlen, hr⟩,
      ⟨_, Replica.committed_seen _ e.lag, InvoiceStore.read_ok ha⟩, ⟨d, he.versions hd, hl⟩⟩
  unfold requireInstance
  rw [Prog.bind_assoc]
  refine hinst.bind (fun o t₅ h₅ => .ofOption (fun inst ho => ?_) fun _ => trivial)
    fun _ _ _ => trivial
  subst ho
  exact .ensure (fun _ => secure_allocateAndFinalize _ _ (h₅ inst rfl)) fun _ => trivial

theorem secure_setNextInvoiceNumber (auth : Option AuthInfo) (id : String) (next : Int32) :
    (invoiceDiscipline libs readOnly).Secure i (setNextInvoiceNumber libs auth id next) t := by
  have hop : ∀ {instanceId : String} {newValue : ℕ},
      (InvoiceOp.setNextInvoiceNumber instanceId newValue).Unguarded libs :=
    fun _ _ => ⟨trivial, trivial⟩
  exact secure_unguarded (.bind (Prog.all_ensure _ _) fun _ =>
    .bind (all_requireInstance (fun _ h => h.unguarded) _) fun _ => .bind (Prog.all_ensure _ _)
      fun _ => .bind (Prog.all_ensure _ _) fun _ => .bind (all_request hop) fun _ =>
        .bind (Prog.all_ensure _ _) fun _ => trivial)

end

/-- Every mutation follows the discipline. -/
theorem invoice_starts (libs : InvoiceLibs) (readOnly : Bool) :
    (invoiceDiscipline libs readOnly).Starts (IsInvoiceMutation libs) := by
  rintro _ ⟨m, rfl⟩ i t - -
  have plain : ∀ {α : Type} {p : InvoiceProg α}, p.All InvoiceOp.Plain →
      (invoiceDiscipline libs readOnly).Secure i p t :=
    fun hp => secure_unguarded (hp.mono fun _ h => h.unguarded)
  cases m with
  | createBillableItem => exact (plain (createBillableItem_plain libs _ _ _)).void
  | updateBillableItem => exact (plain (updateBillableItem_plain libs _ _ _)).void
  | deleteBillableItem => exact (plain (deleteBillableItem_plain _ _)).void
  | createInvoice => exact (plain (createInvoice_plain _ _ _)).void
  | addInvoiceItems => exact (secure_addInvoiceItems _ _ _).void
  | removeInvoiceItems => exact (plain (removeInvoiceItems_plain _ _ _)).void
  | deleteInvoice => exact (secure_deleteInvoice _ _).void
  | finalizeInvoice => exact (secure_finalizeInvoice _ _ _).void
  | setInvoicePaid => exact (plain (setInvoicePaid_plain libs _ _ _)).void
  | downloadInvoicePdf => exact (plain (downloadInvoicePdf_plain libs _ _)).void
  | setNextInvoiceNumber => exact (secure_setNextInvoiceNumber _ _ _).void
  | putProject => exact plain (all_request trivial)
  | putInstance => exact plain (all_request trivial)

/-! ### Reachable states -/

/-- Projects and instances, but no billable item and no invoice yet. -/
def InvoiceStore.start (projects : Table String Project) (instances : Table String Instance) :
    InvoiceStore := ⟨⟨⟨projects, instances, ∅, ∅, ∅⟩, []⟩, []⟩

theorem InvoiceStore.start_sound (projects : Table String Project)
    (instances : Table String Instance) : (InvoiceStore.start projects instances).Sound where
  consistent := Ledger.consistent_empty maxInvoiceItems
  minted h := by cases h
  keyed := ⟨fun _ _ h => (by cases h), fun _ _ h => (by cases h)⟩

/-- A pool reached by any interleaving of the mutations. -/
def InvoiceReachable (libs : InvoiceLibs) (readOnly : Bool)
    (c : Pool (invoiceService readOnly) Error Unit) : Prop :=
  ∃ projects instances,
    Run (invoiceService readOnly) (IsInvoiceMutation libs)
      (Pool.init (InvoiceStore.start projects instances)) c

/-- The tables of a pool. -/
def invoiceTables {readOnly : Bool} (c : Pool (invoiceService readOnly) Error Unit) : InvoiceDb :=
  (InvoiceStore.db c.trace.state).now

theorem InvoiceReachable.holds {libs : InvoiceLibs} {readOnly : Bool}
    {c : Pool (invoiceService readOnly) Error Unit} (h : InvoiceReachable libs readOnly c) :
    (invoiceDiscipline libs readOnly).Holds c := by
  obtain ⟨projects, instances, hrun⟩ := h
  exact Discipline.Run.holds (invoice_starts libs readOnly) hrun
    (.init (InvoiceStore.start_sound projects instances))

/-! ### A sample run

One client of one instance records an item, puts it on an invoice and finalizes it.  The libraries
agree with the real ones on the strings of the run. -/

def jsonString (s : String) : String := "\"" ++ s ++ "\""

def jsonOption (s : Option String) : String := (s.map jsonString).getD "null"

def jsonObject (fields : List (String × String)) : String :=
  "\x7b" ++ ",".intercalate (fields.map fun field => jsonString field.1 ++ ":" ++ field.2) ++ "\x7d"

/-- The JSON of a line. -/
def lineJson (line : InvoiceSnapshotLine) : String :=
  jsonObject [("date", jsonString line.date), ("description", jsonString line.description),
    ("quantity", jsonString line.quantity),
    ("quantity_hundredths", toString line.quantityHundredths),
    ("unit_price_cents", toString line.unitPriceCents), ("amount_cents", toString line.amountCents)]

/-- The JSON of a snapshot whose strings need no escape. -/
def snapshotJson (s : InvoiceSnapshot) : String :=
  jsonObject [("schema_version", toString s.schemaVersion), ("title", jsonString s.title),
    ("display_number", jsonOption s.displayNumber), ("issue_date", jsonOption s.issueDate),
    ("seller", jsonObject [("name", jsonOption s.seller.name), ("abn", jsonOption s.seller.abn),
      ("address", jsonOption s.seller.address), ("phone", jsonOption s.seller.phone),
      ("email", jsonOption s.seller.email)]),
    ("bill_to", jsonObject [("name", jsonString s.billTo.name), ("abn", jsonOption s.billTo.abn),
      ("address", jsonOption s.billTo.address)]),
    ("reference", jsonOption s.reference), ("currency", jsonString s.currency),
    ("gst_registered", toString s.gstRegistered),
    ("lines", "[" ++ ",".intercalate (s.lines.map lineJson) ++ "]"),
    ("subtotal_cents", toString s.subtotalCents), ("gst_cents", toString s.gstCents),
    ("total_cents", toString s.totalCents), ("payment_details", jsonOption s.paymentDetails),
    ("no_gst_note", toString s.noGstNote)]

def sampleLibs : InvoiceLibs where
  dates := ⟨String, some, id⟩
  debug := jsonString
  toJson s := .ok (snapshotJson s)
  fromJson _ := .error "EOF while parsing a value at line 1 column 0"
  renderInvoicePdf _ := .error "no font"

def sampleProject : Project :=
  { id := "p1", instanceId := "i1", clientName := "Client", clientAbn := none,
    clientAddress := none, reference := none, archived := false }

def sampleInstance : Instance :=
  { id := "i1", name := "Studio", slug := "studio", kind := .invoicing,
    publicSubmissionEnabled := false, fromName := "Studio", signature := "", deleted := false,
    businessName := some "Studio Pty Ltd", businessAbn := none, businessAddress := none,
    businessPhone := none, businessEmail := none, paymentDetails := none, gstRegistered := true,
    currency := none }

/-- The owner of the sample instance. -/
def sampleOwner : Option AuthInfo := some (.user "u1" [⟨"i1", true⟩] false)

abbrev SampleMove : Type := Move (invoiceService false) (IsInvoiceMutation sampleLibs)

abbrev SamplePool : Type := Pool (invoiceService false) Error Unit

/-- A client calls a mutation. -/
def sampleCall (m : InvoiceMutation) : SampleMove := .start _ ⟨m, rfl⟩

/-- No failure, and fresh reads. -/
def sampleEnv (newId : String) : InvoiceEnv := ⟨1782777600, newId, 0, .none⟩

/-- The requests of program `i` are served, with a new id each. -/
def sampleServe (i : ℕ) (newIds : List String) : List SampleMove :=
  newIds.map fun newId => .serve i (sampleEnv newId)

def samplePool (moves : List SampleMove) : SamplePool :=
  (Pool.init (InvoiceStore.start (AList.singleton "p1" sampleProject)
    (AList.singleton "i1" sampleInstance))).play moves

theorem samplePool_reachable (moves : List SampleMove) :
    InvoiceReachable sampleLibs false (samplePool moves) :=
  ⟨_, _, Pool.play_run _ moves⟩

theorem samplePool_run (moves moves' : List SampleMove) :
    Run (invoiceService false) (IsInvoiceMutation sampleLibs) (samplePool moves)
      (samplePool (moves ++ moves')) := by
  have happend : samplePool (moves ++ moves') = (samplePool moves).play moves' :=
    Pool.play_append _ _ _
  rw [happend]
  exact Pool.play_run _ _

theorem samplePool_call {moves : List SampleMove} {i : ℕ} (m : InvoiceMutation)
    (h : (samplePool moves).threads.length = i) :
    (samplePool (moves ++ [sampleCall m])).threads[i]? = some (m.prog sampleLibs) := by
  have happend : samplePool (moves ++ [sampleCall m]) = (samplePool moves).move (sampleCall m) :=
    Pool.play_append _ _ _
  rw [happend, ← h]
  exact List.getElem?_concat_length

/-- The next request of program `i`, served. -/
theorem samplePool_serves {moves : List SampleMove} {i : ℕ} {newId : String} {op : InvoiceOp}
    {r : op.Res} (h : (samplePool moves).next i = some op)
    (he : newId ∉ InvoiceStore.minted (samplePool moves).trace.state)
    (hr : (InvoiceStore.serve (samplePool moves).trace.state (sampleEnv newId) false op).1 = r) :
    Serves (invoiceService false) (IsInvoiceMutation sampleLibs) (samplePool moves)
      (samplePool (moves ++ sampleServe i [newId])) ⟨i, op, r⟩ := by
  have hmove : samplePool (moves ++ sampleServe i [newId]) =
      (samplePool moves).move (Move.serve i (sampleEnv newId) : SampleMove) :=
    Pool.play_append _ _ _
  rw [hmove]
  exact Pool.move_serves h he hr

/-- An item is recorded and put on a draft. -/
def sampleDraft : List SampleMove :=
  [sampleCall (.createBillableItem sampleOwner "p1" ⟨"2026-06-30", "Repairs", "1.5", 10000⟩)] ++
    sampleServe 0 ["r1", "b1"] ++ [sampleCall (.createInvoice sampleOwner "p1" ["b1"])] ++
    sampleServe 1 ["r2", "r3", "r4", "v1"]

/-- The draft is finalized, up to the last write. -/
def sampleFinalizing : List SampleMove :=
  sampleDraft ++ [sampleCall (.finalizeInvoice sampleOwner "v1" "2026-07-01")] ++
    sampleServe 2 ["r5", "r6", "r7", "r8", "c1"]

def sampleFinalized : List SampleMove := sampleFinalizing ++ sampleServe 2 ["f1"]

/-! ### The attachment invariant -/

/-- Billable items and invoices agree on what is attached. -/
structure InvoiceDb.Attachments (d : InvoiceDb) : Prop where
  attached : ∀ {id item}, d.items.lookup id = some item → ∀ invoiceId,
    item.invoiceId = some invoiceId ↔
      ∃ invoice, d.invoices.lookup invoiceId = some invoice ∧ id ∈ invoice.itemIds
  listed : ∀ {invoiceId invoice}, d.invoices.lookup invoiceId = some invoice →
    ∀ id ∈ invoice.itemIds, ∃ item, d.items.lookup id = some item ∧
      item.invoiceId = some invoiceId ∧ item.projectId = invoice.projectId
  once : ∀ {invoiceId invoice invoiceId' invoice'}, d.invoices.lookup invoiceId = some invoice →
    d.invoices.lookup invoiceId' = some invoice' → ∀ id ∈ invoice.itemIds, id ∈ invoice'.itemIds →
      invoiceId = invoiceId'
  distinct : ∀ {invoiceId invoice}, d.invoices.lookup invoiceId = some invoice →
    invoice.itemIds.Nodup ∧ invoice.itemIds.length ≤ maxInvoiceItems

theorem InvoiceStore.Sound.attachments {s : InvoiceStore} (h : s.Sound) :
    s.db.now.Attachments where
  attached := by
    intro id item hl invoiceId
    constructor
    · intro ho
      obtain ⟨box, hb, hmem⟩ := h.consistent.owner (InvoiceDb.ledger_items_of hl) ho
      obtain ⟨invoice, hi, rfl⟩ := InvoiceDb.ledger_boxes_some.mp hb
      exact ⟨invoice, hi, hmem⟩
    · rintro ⟨invoice, hi, hmem⟩
      obtain ⟨entry, he, ho⟩ := h.consistent.member (InvoiceDb.ledger_boxes_of hi) hmem
      obtain rfl := Option.some.inj ((InvoiceDb.ledger_items_of hl).symm.trans he)
      exact ho
  listed := by
    intro invoiceId invoice hi id hid
    obtain ⟨entry, he, ho⟩ := h.consistent.member (InvoiceDb.ledger_boxes_of hi) hid
    have hg := h.consistent.group he ho (InvoiceDb.ledger_boxes_of hi)
    obtain ⟨item, hl, rfl⟩ := InvoiceDb.ledger_items_some.mp he
    exact ⟨item, hl, ho, hg⟩
  once := by
    intro invoiceId invoice invoiceId' invoice' hi hi' id hid hid'
    obtain ⟨entry, he, ho⟩ := h.consistent.member (InvoiceDb.ledger_boxes_of hi) hid
    obtain ⟨entry', he', ho'⟩ := h.consistent.member (InvoiceDb.ledger_boxes_of hi') hid'
    obtain rfl := Option.some.inj (he.symm.trans he')
    exact Option.some.inj (ho.symm.trans ho')
  distinct hi :=
    ⟨h.consistent.nodup (InvoiceDb.ledger_boxes_of hi),
      h.consistent.length (InvoiceDb.ledger_boxes_of hi)⟩

/-- In every state that any interleaving of the mutations reaches, an item's `invoice_id` names an
invoice exactly if that invoice exists and lists the item, every listed item exists and is of the
invoice's project, no item is on two invoices, and no invoice has more than 50 items. -/
theorem invoice_attachments {libs : InvoiceLibs} {readOnly : Bool}
    {c : Pool (invoiceService readOnly) Error Unit} (h : InvoiceReachable libs readOnly c) :
    (invoiceTables c).Attachments :=
  InvoiceStore.Sound.attachments h.holds.inv

theorem invoice_attachments_sample : (invoiceTables (samplePool sampleDraft)).Attachments ∧
    (invoiceTables (samplePool sampleDraft)).attachedTo "v1" "b1" :=
  ⟨invoice_attachments (samplePool_reachable sampleDraft), by decide +kernel⟩

end Microticket

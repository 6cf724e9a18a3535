import Microticket.InvoiceFinality

/-! # Invoice numbers

A layer over `invoiceDiscipline` about the counter and the numbers taken from it.  It speaks of the
history: `Allocated t i inst n` says that program `i` was given `n` for instance `inst`.

* Invariant (`Numbering`): an allocated value belongs to one program and is at most the counter, a
  program finalizes at most one invoice, and the number of a finalized invoice comes from a value
  that the finalizing program was given for the invoice's instance.
* Precondition: a finalize request carries the number of a value given to its program.

`numberOfCounter` loses nothing while the counter fits a `u32`, which `Numbering.bounded` gives for
runs of at most 2³¹ increments. -/

namespace Microticket

open Interleaving Tables

/-- The write that finalizes the invoice `id`. -/
def InvoiceOp.Finalizes (id : String) : InvoiceOp → Prop
  | .finalizeInvoice invoiceId .. => invoiceId = id
  | _ => False

section
variable {libs : InvoiceLibs} {readOnly : Bool}

/-- Program `i` was given the value `n` of the counter of `inst`. -/
def Allocated (t : Trace (invoiceService readOnly)) (i : ℕ) (inst : String) (n : ℕ) : Prop :=
  ⟨i, .incrementInvoiceCounter inst, .ok n⟩ ∈ t.events

/-- How often the counter of `inst` was asked for a number. -/
def attempts (t : Trace (invoiceService readOnly)) (inst : String) : ℕ :=
  t.events.countP fun ev => ev.op = .incrementInvoiceCounter inst

/-- The tables of a trace. -/
def tablesOf (t : Trace (invoiceService readOnly)) : InvoiceDb := (InvoiceStore.db t.state).now

/-- The invariant. -/
structure Numbering (t : Trace (invoiceService readOnly)) : Prop where
  bounded : ∀ inst, (tablesOf t).counter inst ≤ 2147483646 + attempts t inst
  below : ∀ {i inst n}, Allocated t i inst n → n ≤ (tablesOf t).counter inst
  distinct : ∀ {i j inst n}, Allocated t i inst n → Allocated t j inst n → i = j
  single : ∀ {ev ev' id id'}, ev ∈ t.events → ev' ∈ t.events → ev.caller = ev'.caller →
    ev.op.Finalizes id → ev'.op.Finalizes id' → id = id'
  used : ∀ {id invoice}, (tablesOf t).invoices.lookup id = some invoice →
    invoice.status = .finalized → ∃ i n, Allocated t i invoice.instanceId n ∧
      invoice.number = some (numberOfCounter n) ∧
      ∃ ev ∈ t.events, ev.caller = i ∧ ev.op.Finalizes id

/-- What a program ensures of its number requests. -/
def InvoiceOp.Numbered (i : ℕ) (t : Trace (invoiceService readOnly)) : InvoiceOp → Prop
  | .finalizeInvoice invoiceId version number .. =>
      (∀ ev ∈ t.events, ev.caller = i → ∀ id, ¬ ev.op.Finalizes id) ∧
      ∃ inst n, Allocated t i inst n ∧ number = numberOfCounter n ∧
        ∀ invoice, (tablesOf t).draftAt invoiceId version = some invoice →
          invoice.instanceId = inst
  | .setNextInvoiceNumber _ newValue => newValue ≤ 2147483646
  | _ => True

/-- The assertions of the layer. -/
def numberAssertions (readOnly : Bool) : Assertions (invoiceService readOnly) where
  Inv := Numbering
  Rely i t t' := t.Extends i t'
  Pre i t op := op.Numbered i t
  refl := .refl
  trans := .trans

theorem InvoiceOp.Finalizes.unique {op : InvoiceOp} {id id' : String} (h : op.Finalizes id)
    (h' : op.Finalizes id') : id = id' := by
  cases op with
  | finalizeInvoice => exact h.symm.trans h'
  | _ => exact h.elim

theorem InvoiceOp.Numbered.not_finalizes {i : ℕ} {t : Trace (invoiceService readOnly)}
    {op : InvoiceOp} (h : op.Numbered i t) {id : String} (hop : op.Finalizes id)
    {ev : Event InvoiceOp InvoiceOp.Res} (hev : ev ∈ t.events) (hi : ev.caller = i) {id' : String} :
    ¬ ev.op.Finalizes id' := by
  cases op with
  | finalizeInvoice => exact h.1 ev hev hi id'
  | _ => exact hop.elim

/-! ### One request -/

variable {t : Trace (invoiceService readOnly)} {i : ℕ} {e : InvoiceEnv} {op : InvoiceOp}

/-- A request changes a counter only as `InvoiceOp.Counts` says. -/
theorem InvoiceStore.Sound.counted {s : InvoiceStore} (h : s.Sound) (hg : op.Guarded s.db.now)
    (inst : String) :
    (s.serve e readOnly op).2.db.now.counter inst = s.db.now.counter inst ∨
      op.Counts s.db.now inst ((s.serve e readOnly op).2.db.now.counter inst) := by
  rcases InvoiceStore.serve_state readOnly s e op with heq | ⟨hw, d, hd, heq⟩
  · rw [heq]
    exact .inl rfl
  · rw [heq]
    exact (change_step hd hw hg h.consistent).counted inst

theorem InvoiceStore.Sound.counter_le {s : InvoiceStore} (h : s.Sound) (hg : op.Guarded s.db.now)
    (inst : String) : s.db.now.counter inst ≤ (s.serve e readOnly op).2.db.now.counter inst := by
  rcases h.counted hg inst with heq | hcounts
  · exact heq.ge
  · cases op with
    | incrementInvoiceCounter instanceId => exact hcounts.2 ▸ Nat.le_succ _
    | setNextInvoiceNumber instanceId newValue => exact hcounts.2.1.trans hcounts.2.2.ge
    | _ => exact hcounts.elim

/-- `increment_invoice_counter` returns the new value of the counter. -/
theorem serve_increment {s : InvoiceStore} {inst : String} {n : ℕ}
    (h : (s.serve e readOnly (.incrementInvoiceCounter inst)).1 = .ok n) :
    n = s.db.now.counter inst + 1 ∧
      (s.serve e readOnly (.incrementInvoiceCounter inst)).2.db.now.counter inst = n := by
  obtain ⟨rfl, -, d, hd, hstate⟩ := InvoiceStore.write_ok h (by simp)
  obtain rfl := Option.some.inj hd
  refine ⟨rfl, (congrArg (fun s => (InvoiceStore.db s).now.counter inst) hstate).trans ?_⟩
  exact (counter_insert inst inst _).trans (if_pos rfl)

/-- `set_next_invoice_number` leaves the counter at the value it was given. -/
theorem serve_setNext {s : InvoiceStore} {inst : String} {v : ℕ}
    (h : (s.serve e readOnly (.setNextInvoiceNumber inst v)).1 = .ok true) :
    (s.serve e readOnly (.setNextInvoiceNumber inst v)).2.db.now.counter inst = v := by
  obtain ⟨-, -, d, hd, hstate⟩ := InvoiceStore.write_ok h (by simp)
  refine (congrArg (fun s => (InvoiceStore.db s).now.counter inst) hstate).trans ?_
  simp only [InvoiceDb.change, InvoiceDb.setNextInvoiceNumber, Option.ite_none_right_eq_some,
    Option.some.injEq] at hd
  obtain ⟨-, rfl⟩ := hd
  exact (counter_insert inst inst _).trans (if_pos rfl)

theorem attempts_serve (inst : String) : attempts (t.serve i e op) inst =
    attempts t inst + if op = .incrementInvoiceCounter inst then 1 else 0 := by
  unfold attempts
  rw [Trace.serve_events, List.countP_append]
  simp [List.countP_singleton]

/-- A value that is allocated was allocated before, or is the one just returned. -/
theorem allocated_serve {j : ℕ} {inst : String} {n : ℕ} (h : Allocated (t.serve i e op) j inst n) :
    Allocated t j inst n ∨ j = i ∧ n = (tablesOf t).counter inst + 1 ∧
      (tablesOf (t.serve i e op)).counter inst = n := by
  rcases List.mem_append.mp h with h | h
  · exact .inl h
  · have heq := List.mem_singleton.mp h
    obtain rfl : InvoiceOp.incrementInvoiceCounter inst = op := congrArg Event.op heq
    simp only [Event.mk.injEq, heq_eq_eq, true_and] at heq
    exact .inr ⟨heq.1, serve_increment heq.2.symm⟩

/-- Being finalized and the frozen part survive a guarded request. -/
theorem InvoiceStore.Sound.finalized_back {s : InvoiceStore} (h : s.Sound)
    (he : e.newId ∉ s.minted) (hg : op.Guarded s.db.now) {id : String} {invoice : Invoice}
    (hl : (s.serve e readOnly op).2.db.now.invoices.lookup id = some invoice)
    (hf : s.db.now.Finalized id) : ∃ invoice₀, s.db.now.invoices.lookup id = some invoice₀ ∧
      invoice₀.status = .finalized ∧ invoice.frozen = invoice₀.frozen := by
  obtain ⟨invoice₀, hl₀, hf₀⟩ := hf
  have hfollows := (h.serve readOnly he hg).2.follows (h.minted hl₀)
  obtain ⟨hkept, -⟩ := hfollows.closed (InvoiceDb.ledger_boxes_of hl₀) (Invoice.box_closed.mpr hf₀)
  have heq := Option.some.inj ((InvoiceDb.ledger_boxes_of hl).symm.trans hkept)
  exact ⟨invoice₀, hl₀, hf₀, congrArg Ledger.Box.data heq⟩

theorem Numbering.serve (h : Numbering t) (hs : InvoiceStore.Sound t.state)
    (he : e.newId ∉ InvoiceStore.minted t.state) (hg : op.Guarded (tablesOf t))
    (hn : op.Numbered i t) : Numbering (t.serve i e op) := by
  have hle : ∀ inst, (tablesOf t).counter inst ≤ (tablesOf (t.serve i e op)).counter inst :=
    fun inst => hs.counter_le hg inst
  refine ⟨fun inst => ?_, fun {j inst n} ha => ?_, fun {j j' inst n} ha ha' => ?_,
    fun {ev ev' id id'} hev hev' hcaller hfin hfin' => ?_, fun {id invoice} hl hf => ?_⟩
  · have hb := h.bounded inst
    rw [attempts_serve]
    have hc : (tablesOf (t.serve i e op)).counter inst = (tablesOf t).counter inst ∨
      op.Counts (tablesOf t) inst ((tablesOf (t.serve i e op)).counter inst) := hs.counted hg inst
    rcases hc with hc | hc
    · omega
    · cases op with
      | incrementInvoiceCounter instanceId =>
          obtain ⟨rfl, hc⟩ := hc
          rw [if_pos rfl]
          omega
      | setNextInvoiceNumber instanceId newValue =>
          have hn : newValue ≤ 2147483646 := hn
          have hc := hc.2.2
          omega
      | _ => exact hc.elim
  · rcases allocated_serve ha with ha | ⟨-, -, hnew⟩
    · exact (h.below ha).trans (hle inst)
    · exact hnew.ge
  · rcases allocated_serve ha with hold | ⟨hj, hnew, -⟩ <;>
      rcases allocated_serve ha' with hold' | ⟨hj', hnew', -⟩
    · exact h.distinct hold hold'
    · have := h.below hold
      omega
    · have := h.below hold'
      omega
    · exact hj.trans hj'.symm
  · rcases List.mem_append.mp hev with hev | hev <;>
      rcases List.mem_append.mp hev' with hev' | hev'
    · exact h.single hev hev' hcaller hfin hfin'
    · rw [List.mem_singleton.mp hev'] at hcaller hfin'
      exact absurd hfin (hn.not_finalizes hfin' hev hcaller)
    · rw [List.mem_singleton.mp hev] at hcaller hfin
      exact absurd hfin' (hn.not_finalizes hfin hev' hcaller.symm)
    · rw [List.mem_singleton.mp hev] at hfin
      rw [List.mem_singleton.mp hev'] at hfin'
      exact hfin.unique hfin'
  · by_cases hold : (tablesOf t).Finalized id
    · obtain ⟨invoice₀, hl₀, hf₀, hfrozen⟩ := hs.finalized_back he hg hl hold
      have hinst := Invoice.instanceId_of_frozen hfrozen
      have hnumber := Invoice.number_of_frozen hfrozen
      obtain ⟨j, n, ha, hnum, ev, hev, hfin⟩ := h.used hl₀ hf₀
      exact ⟨j, n, hinst ▸ List.mem_append_left _ ha, hnumber.trans hnum, ev,
        List.mem_append_left _ hev, hfin⟩
    · have hcloses := hs.closes hg hl hf hold
      cases op with
      | finalizeInvoice invoiceId version number issueDate json total userId =>
          obtain ⟨rfl, draft, hat, hinst, -, hnumber, -⟩ := hcloses
          obtain ⟨-, inst, n, ha, rfl, hdraft⟩ := hn
          rw [hdraft draft hat] at hinst
          exact ⟨i, n, hinst ▸ List.mem_append_left _ ha, hnumber, _,
            List.mem_append_right _ (List.mem_singleton_self _), rfl, rfl⟩
      | _ => exact hcloses.elim

/-! ### The layer -/

/-- The discipline of the invoicing mutations with that of the numbers. -/
def numberDiscipline (libs : InvoiceLibs) (readOnly : Bool) :
    Discipline (invoiceService readOnly) :=
  (invoiceDiscipline libs readOnly).layer (numberAssertions readOnly)
    (fun hs h he hp hn => h.serve hs he hp.1 hn)
    (fun hne _ _ _ _ _ => .serve hne _ _)

/-- The assertions of the layer for programs that follow the invoice discipline. -/
def numberLayer (libs : InvoiceLibs) (readOnly : Bool) : Assertions (invoiceService readOnly) :=
  (numberAssertions readOnly).over (invoiceDiscipline libs readOnly)

/-- Program `i` has sent no finalize write yet. -/
def Quiet (i : ℕ) (t : Trace (invoiceService readOnly)) : Prop :=
  ∀ ev ∈ t.events, ev.caller = i → ∀ id, ¬ ev.op.Finalizes id

theorem Quiet.extends {t' : Trace (invoiceService readOnly)} (h : Quiet i t)
    (he : t.Extends i t') : Quiet i t' :=
  fun ev hev hi => h ev (he.own hev hi) hi

theorem Quiet.serve (h : Quiet i t) (hop : ∀ id, ¬ op.Finalizes id) :
    Quiet i (t.serve i e op) := by
  intro ev hev hi id
  rcases List.mem_append.mp hev with hev | hev
  · exact h ev hev hi id
  · rw [List.mem_singleton.mp hev]
    exact hop id

/-- Requests that the layer does not restrict. -/
def InvoiceOp.Unnumbered : InvoiceOp → Prop
  | .finalizeInvoice .. => False
  | .setNextInvoiceNumber _ newValue => newValue ≤ 2147483646
  | _ => True

theorem InvoiceOp.Unnumbered.numbered {op : InvoiceOp} (h : op.Unnumbered) : op.Numbered i t := by
  cases op <;> first | exact h | trivial

theorem InvoiceOp.Unnumbered.not_finalizes {op : InvoiceOp} (h : op.Unnumbered) (id : String) :
    ¬ op.Finalizes id := by
  cases op <;> first | exact h.elim | exact not_false

theorem InvoiceOp.Plain.unnumbered {op : InvoiceOp} (h : op.Plain) : op.Unnumbered := by
  cases op <;> trivial

/-- A program that sends only unnumbered requests is secure. -/
theorem secure_unnumbered {α : Type} {p : InvoiceProg α} (hp : p.All InvoiceOp.Unnumbered) :
    (numberLayer libs readOnly).Secure i p t :=
  .of_all (fun _ h _ _ => h.numbered) hp t

/-- A program that sends only unnumbered requests stays quiet. -/
theorem quiet_unnumbered {α : Type} {p : InvoiceProg α} (hp : p.All InvoiceOp.Unnumbered)
    (h : Quiet i t) : (numberLayer libs readOnly).Safe i p (fun _ t' => Quiet i t') t :=
  Assertions.Safe.stable (fun hop _ _ => hop.numbered) (fun h he => h.extends he.2)
    (fun hop h _ _ => h.serve hop.not_finalizes) hp h

/-- Reading keeps a program quiet, and what is stable. -/
theorem quiet_reads {α : Type} {p : InvoiceProg α} (hp : p.All InvoiceOp.IsRead)
    {K : InvoiceStore → Prop} (hK : ∀ {s s'}, K s → InvoiceStore.Evolves s s' → K s')
    (h : K t.state) (hq : Quiet i t) :
    (numberLayer libs readOnly).Safe i p (fun _ t' => K t'.state ∧ Quiet i t') t :=
  (safe_unguarded (hp.mono fun _ h => h.unguarded) hK h).over
    (quiet_unnumbered (hp.mono fun _ h => h.plain.unnumbered) hq)

/-! ### The mutations -/

theorem addInvoiceItems_unnumbered (auth : Option AuthInfo) (id : String) (itemIds : List String) :
    (addInvoiceItems auth id itemIds).All InvoiceOp.Unnumbered :=
  .bind (all_requireInvoiceMember (fun _ h => h.plain.unnumbered) auth id) fun _ =>
    .bind (Prog.all_ensure _ _) fun _ => .bind (Prog.all_ofExcept _) fun _ =>
      .bind (all_fetchEligibleItems (fun _ h => h.plain.unnumbered) _ _) fun _ =>
        .bind (all_getBillableItems (fun _ h => h.plain.unnumbered) _) fun _ =>
          .bind (all_requireInstance (fun _ h => h.plain.unnumbered) _) fun _ =>
            .bind (all_validated _) fun _ => .bind (all_request trivial) fun _ =>
              .bind (Prog.all_ensure _ _) fun _ => trivial

theorem deleteInvoice_unnumbered (auth : Option AuthInfo) (id : String) :
    (deleteInvoice auth id).All InvoiceOp.Unnumbered :=
  .bind (all_requireInvoiceMember (fun _ h => h.plain.unnumbered) auth id) fun _ =>
    .bind (Prog.all_ensure _ _) fun _ => .bind (all_request trivial) fun _ =>
      .bind (Prog.all_ensure _ _) fun _ => trivial

theorem setNextInvoiceNumber_unnumbered (auth : Option AuthInfo) (id : String) (next : Int32) :
    (setNextInvoiceNumber libs auth id next).All InvoiceOp.Unnumbered := by
  have hlt := next.toInt_lt
  have hop : ∀ inst, (InvoiceOp.setNextInvoiceNumber inst (next.toInt - 1).toNat).Unnumbered := by
    intro inst
    unfold InvoiceOp.Unnumbered
    omega
  exact .bind (Prog.all_ensure _ _) fun _ =>
    .bind (all_requireInstance (fun _ h => h.plain.unnumbered) _) fun _ =>
      .bind (Prog.all_ensure _ _) fun _ => .bind (Prog.all_ensure _ _) fun _ =>
        .bind (all_request (hop _)) fun _ => .bind (Prog.all_ensure _ _) fun _ => trivial

theorem getBillableItemsConsistent_reads (ids : List String) :
    (getBillableItemsConsistent ids).All InvoiceOp.IsRead := by
  refine .forEach (fun id => ?_) ids
  have hop : (InvoiceOp.getBillableItemConsistent id).IsRead := trivial
  exact all_request hop

/-- After `increment_invoice_counter` its answer is allocated to the program. -/
theorem numbered_increment {invoice : Invoice} (hk : Knows invoice [] t.state) (hq : Quiet i t) :
    (numberLayer libs readOnly).Safe i (request (.incrementInvoiceCounter invoice.instanceId))
      (fun r t' => ∀ n, r = .ok n → Allocated t' i invoice.instanceId n ∧
        Knows invoice [] t'.state ∧ Quiet i t') t := by
  refine safe_request (fun _ _ _ => trivial) (fun t₁ he hi e hnew n hn m hm => ?_)
    fun _ _ _ h => by cases h
  obtain rfl := Except.ok.inj hm
  have hg : (InvoiceOp.incrementInvoiceCounter invoice.instanceId).Guarded (tablesOf t₁) := trivial
  have hev := (InvoiceStore.Sound.serve hi.1 readOnly hnew hg).2
  refine ⟨?_, (hk.evolves he.1).evolves hev, (hq.extends he.2).serve fun _ => not_false⟩
  exact List.mem_append_right _ (List.mem_singleton.mpr (by rw [hn]))

/-- The finalize write carries a number that was allocated for the instance of the invoice. -/
theorem numbered_finalizeWrite {invoice : Invoice} {n : ℕ} (issueDate json : String) (total : ℤ)
    (userId : String) (ha : Allocated t i invoice.instanceId n) (hk : Knows invoice [] t.state)
    (hq : Quiet i t) :
    (numberLayer libs readOnly).Secure i (request (.finalizeInvoice invoice.id invoice.version
      (numberOfCounter n) issueDate json total userId)) t := by
  refine safe_request (fun t₁ he _ => ?_) (fun _ _ _ _ _ _ _ => trivial) fun _ _ => trivial
  refine ⟨hq.extends he.2, invoice.instanceId, n, he.2.events ha, rfl, fun invoice' hat => ?_⟩
  exact (hk.evolves he.1).instanceId hat

theorem numbered_allocateAndFinalize {invoice : Invoice} {items : List BillableItem}
    {inst : Instance} {project : Project} (userId issueDate : String)
    (hk : Knows invoice [] t.state) (hq : Quiet i t) :
    (numberLayer libs readOnly).Secure i
      (allocateAndFinalize libs invoice userId issueDate inst project items) t := by
  refine (numbered_increment hk hq).bind (fun allocated t₁ h => ?_) fun _ _ _ => trivial
  obtain ⟨ha, hk, hq⟩ := h allocated rfl
  refine .ofExcept (fun _ _ => .ofExcept (fun json _ => ?_) fun _ _ => trivial) fun _ _ => trivial
  refine (numbered_finalizeWrite _ _ _ _ ha hk hq).bind (fun committed t₂ _ => ?_)
    fun _ _ _ => trivial
  exact secure_unnumbered (.bind (Prog.all_ensure _ _) fun _ => trivial)

theorem numbered_finalizeInvoice (auth : Option AuthInfo) (id issueDate : String)
    (hq : Quiet i t) :
    (numberLayer libs readOnly).Secure i (finalizeInvoice libs auth id issueDate) t := by
  unfold finalizeInvoice
  refine ((safe_requireInvoiceMember auth id).over (quiet_unnumbered (all_requireInvoiceMember
    (fun _ h => h.plain.unnumbered) auth id) hq)).bind (fun invoice t₁ h => ?_) fun _ _ _ => trivial
  have hread : ∀ {γ : Type} {p : InvoiceProg γ} {t' : Trace (invoiceService readOnly)},
      p.All InvoiceOp.IsRead → Knows invoice [] t'.state ∧ Quiet i t' →
      (numberLayer libs readOnly).Safe i p
        (fun _ t'' => Knows invoice [] t''.state ∧ Quiet i t'') t' :=
    fun hp h => quiet_reads hp .evolves h.1 h.2
  refine (hread (all_requireUser auth) ⟨h.1 invoice rfl, h.2⟩).bind (fun user t₂ h => ?_)
    fun _ _ _ => trivial
  refine .ensure (fun _ => .ensure (fun _ => .ofExcept (fun issueDate _ => ?_) fun _ _ => trivial)
    fun _ => trivial) fun _ => trivial
  refine (hread (getBillableItemsConsistent_reads _) h).bind (fun fetched t₃ h => ?_)
    fun _ _ _ => trivial
  refine .ofExcept (fun items _ => ?_) fun _ _ => trivial
  have hproject : (InvoiceOp.getProject invoice.projectId).IsRead := trivial
  refine (hread (all_request hproject) h).bind (fun o t₄ h => ?_) fun _ _ _ => trivial
  refine .ofOption (fun project _ => ?_) fun _ => trivial
  refine (hread (all_requireInstance (fun _ h => h) _) h).bind (fun inst t₅ h => ?_)
    fun _ _ _ => trivial
  exact .ensure (fun _ => numbered_allocateAndFinalize _ _ h.1 h.2) fun _ => trivial

theorem quiet_of_fresh (h : ∀ ev ∈ t.events, ev.caller ≠ i) : Quiet i t :=
  fun ev hev hi => absurd hi (h ev hev)

/-- Every mutation follows the discipline of the numbers. -/
theorem number_starts (libs : InvoiceLibs) (readOnly : Bool) :
    (numberDiscipline libs readOnly).Starts (IsInvoiceMutation libs) := by
  rintro p hp i t hinv hfresh
  refine (invoice_starts libs readOnly p hp i t hinv.1 hfresh).layer ?_
  obtain ⟨m, rfl⟩ := hp
  have plain : ∀ {α : Type} {p : InvoiceProg α}, p.All InvoiceOp.Plain →
      (numberLayer libs readOnly).Secure i p t :=
    fun hp => secure_unnumbered (hp.mono fun _ h => h.unnumbered)
  cases m with
  | createBillableItem => exact (plain (createBillableItem_plain libs _ _ _)).void
  | updateBillableItem => exact (plain (updateBillableItem_plain libs _ _ _)).void
  | deleteBillableItem => exact (plain (deleteBillableItem_plain _ _)).void
  | createInvoice => exact (plain (createInvoice_plain _ _ _)).void
  | addInvoiceItems => exact (secure_unnumbered (addInvoiceItems_unnumbered _ _ _)).void
  | removeInvoiceItems => exact (plain (removeInvoiceItems_plain _ _ _)).void
  | deleteInvoice => exact (secure_unnumbered (deleteInvoice_unnumbered _ _)).void
  | finalizeInvoice => exact (numbered_finalizeInvoice _ _ _ (quiet_of_fresh hfresh)).void
  | setInvoicePaid => exact (plain (setInvoicePaid_plain libs _ _ _)).void
  | downloadInvoicePdf => exact (plain (downloadInvoicePdf_plain libs _ _)).void
  | setNextInvoiceNumber => exact (secure_unnumbered (setNextInvoiceNumber_unnumbered _ _ _)).void
  | putProject => exact plain (all_request trivial)
  | putInstance => exact plain (all_request trivial)

theorem numbering_start (projects : Table String Project) (instances : Table String Instance) :
    Numbering (⟨[], InvoiceStore.start projects instances⟩ : Trace (invoiceService readOnly)) where
  bounded _ := Nat.zero_le _
  below h := by cases h
  distinct h := by cases h
  single h := by cases h
  used h := by cases h

theorem InvoiceReachable.numbered {c : Pool (invoiceService readOnly) Error Unit}
    (h : InvoiceReachable libs readOnly c) : (numberDiscipline libs readOnly).Holds c := by
  obtain ⟨projects, instances, hrun⟩ := h
  exact Discipline.Run.holds (number_starts libs readOnly) hrun
    (.init ⟨InvoiceStore.start_sound projects instances, numbering_start projects instances⟩)

theorem InvoiceReachable.run {c c' : Pool (invoiceService readOnly) Error Unit}
    (h : InvoiceReachable libs readOnly c)
    (hrun : Run (invoiceService readOnly) (IsInvoiceMutation libs) c c') :
    InvoiceReachable libs readOnly c' := by
  obtain ⟨projects, instances, hstart⟩ := h
  exact ⟨projects, instances, hstart.trans hrun⟩

/-! ### What follows -/

/-- The value of the counter of an instance. -/
def counterOf (inst : String) (c : Pool (invoiceService readOnly) Error Unit) : ℕ :=
  (invoiceTables c).counter inst

variable {c c' c₁ c₂ c₃ : Pool (invoiceService readOnly) Error Unit}

/-- The counter never decreases. -/
theorem counter_monotone (h : InvoiceReachable libs readOnly c)
    (hrun : Run (invoiceService readOnly) (IsInvoiceMutation libs) c c') (inst : String) :
    counterOf inst c ≤ counterOf inst c' := by
  refine Run.follows (invoiceDiscipline libs readOnly)
    (R := fun t t' => t.state.db.now.counter inst ≤ t'.state.db.now.counter inst)
    (fun _ => le_refl _) le_trans (fun hs _ hp => hs.counter_le hp.1 inst) (invoice_starts libs readOnly) hrun h.holds

/-- While the counter fits a `u32`, a number that was written is the value that one increment
returned. -/
theorem finalized_number (h : InvoiceReachable libs readOnly c) {inst : String}
    (hattempts : attempts c.trace inst ≤ 2147483648) {id : String} {invoice : Invoice}
    (hl : (invoiceTables c).invoices.lookup id = some invoice) (hf : invoice.status = .finalized)
    (hinst : invoice.instanceId = inst) : ∃ i n, Allocated c.trace i inst n ∧
      invoice.number = some n ∧ ∃ ev ∈ c.trace.events, ev.caller = i ∧ ev.op.Finalizes id := by
  have hnum := h.numbered.inv.2
  obtain ⟨i, n, ha, hn, hev⟩ := hnum.used hl hf
  rw [hinst] at ha
  have hle := hnum.below ha
  have hbound := hnum.bounded inst
  have hn' : numberOfCounter n = n := Nat.min_eq_left (by omega)
  exact ⟨i, n, ha, hn' ▸ hn, hev⟩

/-- Two finalized invoices of one instance with one number are the same invoice. -/
theorem finalized_number_unique (h : InvoiceReachable libs readOnly c) {inst : String}
    (hattempts : attempts c.trace inst ≤ 2147483648) {id id' : String} {invoice invoice' : Invoice}
    (hl : (invoiceTables c).invoices.lookup id = some invoice) (hf : invoice.status = .finalized)
    (hl' : (invoiceTables c).invoices.lookup id' = some invoice')
    (hf' : invoice'.status = .finalized) (hinst : invoice.instanceId = inst)
    (hinst' : invoice'.instanceId = inst) (hn : invoice.number = invoice'.number) : id = id' := by
  obtain ⟨i, n, ha, hnum, ev, hev, rfl, hfin⟩ := finalized_number h hattempts hl hf hinst
  obtain ⟨i', n', ha', hnum', ev', hev', rfl, hfin'⟩ := finalized_number h hattempts hl' hf' hinst'
  obtain rfl : n = n' := Option.some.inj (hnum.symm.trans (hn.trans hnum'))
  exact h.numbered.inv.2.single hev hev' (h.numbered.inv.2.distinct ha ha') hfin hfin'

/-- The request leaves the counter of `inst` at `v`, if it was `v`: it is no increment, and a set of
it is refused or carries no larger value. -/
def CounterKept (inst : String) (v : ℕ) (ev : Event InvoiceOp InvoiceOp.Res) : Prop :=
  match ev with
  | ⟨_, .incrementInvoiceCounter inst', _⟩ => inst' ≠ inst
  | ⟨_, .setNextInvoiceNumber inst' v', res⟩ => inst' = inst → v' ≤ v ∨ res = .ok false
  | _ => True

/-- A refused write changes nothing. -/
theorem InvoiceStore.write_refused {s : InvoiceStore} {α : Type} {committed a : α}
    {refused : Except DbError α} (h : (s.write e readOnly op committed refused).1 = .ok a)
    (hne : a ≠ committed) : (s.write e readOnly op committed refused).2 = s := by
  unfold InvoiceStore.write at h ⊢
  split
  · rfl
  split
  · rfl
  split
  · rfl
  split
  · rfl
  rename_i hro hl hc hw
  rw [if_neg hro, if_neg hl, if_neg hc, if_neg hw] at h
  split at h
  · rfl
  · split at h
    · exact absurd (Except.ok.inj h).symm hne
    · cases h

theorem counter_kept (h : InvoiceReachable libs readOnly c) {inst : String} {v : ℕ}
    {ev : Event InvoiceOp InvoiceOp.Res}
    (hs : Serves (invoiceService readOnly) (IsInvoiceMutation libs) c c' ev)
    (hev : CounterKept inst v ev) (hv : counterOf inst c = v) : counterOf inst c' = v := by
  obtain ⟨e, k, hi, he, htrace, hres⟩ := hs.trace
  have hg := (h.holds.pre hi).1
  have hsound : InvoiceStore.Sound c.trace.state := h.holds.inv
  have hcounter : counterOf inst c' =
      (InvoiceStore.serve c.trace.state e readOnly ev.op).2.db.now.counter inst := by
    rw [counterOf, invoiceTables, htrace, Trace.serve_state]
  rcases hsound.counted hg inst with heq | hcounts
  · exact hcounter.trans (heq.trans hv)
  · obtain ⟨i, op, res⟩ := ev
    cases op with
    | incrementInvoiceCounter inst' => exact absurd hcounts.1.symm hev
    | setNextInvoiceNumber inst' v' =>
        obtain ⟨rfl, hle, hset⟩ := hcounts
        rcases hev rfl with hsmall | hrefused
        · rw [hcounter, hset]
          have hle : counterOf inst c ≤ v' := hle
          omega
        · have hsame := InvoiceStore.write_refused (hres.symm.trans hrefused) Bool.false_ne_true
          rw [hcounter]
          exact (congrArg (fun s => (InvoiceStore.db s).now.counter inst) hsame).trans hv
    | _ => exact hcounts.elim

/-- After `set_next_invoice_number(next)` has succeeded, every number allocated later is at least
`next`, and the first is `next` unless the counter was changed in between. -/
theorem allocated_after_setNext (h : InvoiceReachable libs readOnly c) {inst : String}
    {next : Int32} (hnext : 1 ≤ next.toInt) {i j n : ℕ}
    (hset : Serves (invoiceService readOnly) (IsInvoiceMutation libs) c c₁
      ⟨i, .setNextInvoiceNumber inst (next.toInt - 1).toNat, .ok true⟩)
    (hrun : Run (invoiceService readOnly) (IsInvoiceMutation libs) c₁ c₂)
    (hincr : Serves (invoiceService readOnly) (IsInvoiceMutation libs) c₂ c₃
      ⟨j, .incrementInvoiceCounter inst, .ok n⟩) :
    next.toInt ≤ n ∧
      ((∀ ev ∈ c₁.since c₂, CounterKept inst (next.toInt - 1).toNat ev) → n = next.toInt) := by
  have h₁ : InvoiceReachable libs readOnly c₁ := h.run (.single hset.1)
  obtain ⟨e, k, -, -, htrace, hres⟩ := hset.trace
  obtain ⟨e', k', -, -, htrace', hres'⟩ := hincr.trace
  have hv : counterOf inst c₁ = (next.toInt - 1).toNat := by
    rw [counterOf, invoiceTables, htrace]
    exact serve_setNext hres.symm
  have hn : n = counterOf inst c₂ + 1 := (serve_increment hres'.symm).1
  have hle := counter_monotone h₁ hrun inst
  refine ⟨by omega, fun hkept => ?_⟩
  have hkeep : counterOf inst c₂ = (next.toInt - 1).toNat :=
    Run.keeps (K := fun t => (tablesOf t).counter inst = (next.toInt - 1).toNat)
      (fun hr hs hev hK => counter_kept (h₁.run hr) hs hev hK) hrun hkept hv
  omega

/-- What holds of the numbers of one instance in a reachable pool and in the runs from it. -/
structure InvoiceNumbers (libs : InvoiceLibs) (inst : String)
    (c : Pool (invoiceService readOnly) Error Unit) : Prop where
  unique : attempts c.trace inst ≤ 2147483648 → ∀ {id id' invoice invoice'},
    (invoiceTables c).invoices.lookup id = some invoice → invoice.status = .finalized →
    (invoiceTables c).invoices.lookup id' = some invoice' → invoice'.status = .finalized →
    invoice.instanceId = inst → invoice'.instanceId = inst → invoice.number = invoice'.number →
    id = id'
  written : attempts c.trace inst ≤ 2147483648 → ∀ {id invoice},
    (invoiceTables c).invoices.lookup id = some invoice → invoice.status = .finalized →
    invoice.instanceId = inst → ∃ i n, Allocated c.trace i inst n ∧ invoice.number = some n
  monotone : ∀ {c'}, Run (invoiceService readOnly) (IsInvoiceMutation libs) c c' →
    counterOf inst c ≤ counterOf inst c'
  forward : ∀ {next : Int32} {i j n : ℕ} {c₁ c₂ c₃}, 1 ≤ next.toInt →
    Serves (invoiceService readOnly) (IsInvoiceMutation libs) c c₁
      ⟨i, .setNextInvoiceNumber inst (next.toInt - 1).toNat, .ok true⟩ →
    Run (invoiceService readOnly) (IsInvoiceMutation libs) c₁ c₂ →
    Serves (invoiceService readOnly) (IsInvoiceMutation libs) c₂ c₃
      ⟨j, .incrementInvoiceCounter inst, .ok n⟩ →
    next.toInt ≤ n ∧
      ((∀ ev ∈ c₁.since c₂, CounterKept inst (next.toInt - 1).toNat ev) → n = next.toInt)

/-- Invoice numbers are never duplicated: in every reachable pool the numbers of an instance are
values of its counter, each used at most once, and the counter only moves forward, to where
`set_next_invoice_number` puts it. -/
theorem invoice_numbers (h : InvoiceReachable libs readOnly c) (inst : String) :
    InvoiceNumbers libs inst c where
  unique ha _ _ _ _ hl hf hl' hf' hi hi' hn :=
    finalized_number_unique h ha hl hf hl' hf' hi hi' hn
  written ha _ _ hl hf hi := by
    obtain ⟨i, n, hn, hnum, -⟩ := finalized_number h ha hl hf hi
    exact ⟨i, n, hn, hnum⟩
  monotone hrun := counter_monotone h hrun inst
  forward hnext hset hrun hincr := allocated_after_setNext h hnext hset hrun hincr

end

theorem invoice_numbers_sample : ∃ i n,
    Allocated (samplePool sampleFinalized).trace i "i1" n ∧
    ((invoiceTables (samplePool sampleFinalized)).invoices.lookup "v1").map Invoice.number =
      some (some n) := by
  have hl : ((invoiceTables (samplePool sampleFinalized)).invoices.lookup "v1").map
      (fun invoice => (invoice.status, invoice.instanceId)) = some (.finalized, "i1") := by
    decide +kernel
  obtain ⟨invoice, hl, hf⟩ := Option.map_eq_some_iff.mp hl
  obtain ⟨hf, hinst⟩ := Prod.mk.inj hf
  have hattempts : attempts (samplePool sampleFinalized).trace "i1" ≤ 2147483648 := by
    decide +kernel
  obtain ⟨i, n, ha, hn⟩ := (invoice_numbers (samplePool_reachable sampleFinalized) "i1").written
    hattempts hl hf hinst
  exact ⟨i, n, ha, by rw [hl, Option.map_some, hn]⟩

/-- The owner sets the next number to 10 and then to 20, while the sample invoice is about to take
its number. -/
def sampleNumbering : List SampleMove :=
  sampleDraft ++ [sampleCall (.finalizeInvoice sampleOwner "v1" "2026-07-01")] ++
    sampleServe 2 ["r5", "r6", "r7", "r8"] ++
    [sampleCall (.setNextInvoiceNumber sampleOwner "i1" 10),
      sampleCall (.setNextInvoiceNumber sampleOwner "i1" 20)] ++
    sampleServe 3 ["r9"] ++ sampleServe 4 ["r10"]

/-- After `set_next_invoice_number(10)` the first allocation may return 20 although no finalization
ran in between: another call has moved the counter further. -/
theorem allocated_after_setNext_not_exact : ¬ ∀ (libs : InvoiceLibs) (readOnly : Bool)
    (inst : String) (next : Int32) (i j n : ℕ)
    (c c₁ c₂ c₃ : Pool (invoiceService readOnly) Error Unit),
    InvoiceReachable libs readOnly c → 1 ≤ next.toInt →
    Serves (invoiceService readOnly) (IsInvoiceMutation libs) c c₁
      ⟨i, .setNextInvoiceNumber inst (next.toInt - 1).toNat, .ok true⟩ →
    Run (invoiceService readOnly) (IsInvoiceMutation libs) c₁ c₂ →
    (∀ ev ∈ c₁.since c₂, ∃ next' : Int32,
      ev.op = .setNextInvoiceNumber inst (next'.toInt - 1).toNat) →
    Serves (invoiceService readOnly) (IsInvoiceMutation libs) c₂ c₃
      ⟨j, .incrementInvoiceCounter inst, .ok n⟩ → n = next.toInt := by
  intro h
  have hset : Serves _ _ (samplePool sampleNumbering)
      (samplePool (sampleNumbering ++ sampleServe 3 ["s1"]))
      ⟨3, .setNextInvoiceNumber "i1" 9, .ok true⟩ :=
    samplePool_serves (by decide +kernel) (by decide +kernel) (by decide +kernel)
  have hset' : Serves _ _ (samplePool (sampleNumbering ++ sampleServe 3 ["s1"]))
      (samplePool (sampleNumbering ++ sampleServe 3 ["s1"] ++ sampleServe 4 ["s2"]))
      ⟨4, .setNextInvoiceNumber "i1" 19, .ok true⟩ :=
    samplePool_serves (by decide +kernel) (by decide +kernel) (by decide +kernel)
  have hincr : Serves _ _
      (samplePool (sampleNumbering ++ sampleServe 3 ["s1"] ++ sampleServe 4 ["s2"]))
      (samplePool (sampleNumbering ++ sampleServe 3 ["s1"] ++ sampleServe 4 ["s2"] ++
        sampleServe 2 ["c1"])) ⟨2, .incrementInvoiceCounter "i1", .ok 20⟩ :=
    samplePool_serves (by decide +kernel) (by decide +kernel) (by decide +kernel)
  have hsince : ∀ ev ∈ (samplePool (sampleNumbering ++ sampleServe 3 ["s1"])).since
      (samplePool (sampleNumbering ++ sampleServe 3 ["s1"] ++ sampleServe 4 ["s2"])),
      ∃ next' : Int32, ev.op = .setNextInvoiceNumber "i1" (next'.toInt - 1).toNat := by
    intro ev hev
    rw [Pool.since, hset'.2, List.drop_left, List.mem_singleton] at hev
    exact ⟨20, by rw [hev]; rfl⟩
  have h20 := h sampleLibs false "i1" 10 3 2 20 _ _ _ _ (samplePool_reachable sampleNumbering)
    (by decide) hset (.single hset'.1) hsince hincr
  exact absurd h20 (by decide)

end Microticket

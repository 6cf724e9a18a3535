import Microticket.InvoiceNumbers
import Microticket.Path

/-! # Rejected finalizations

What a `finalizeInvoice` call that returns an error has done to the tables, whatever the other
mutations do in between.  Its reads are collected in `FinalizeRows`; `Accepted` are the checks made
before `increment_invoice_counter`.

* `finalizeInvoice_fails`: a call that fails has sent reads only, or its checks have accepted the
  rows it read and the failure comes after the allocation of the number.
* `rejected_finalization`: a call whose requests are all answered, and whose last write is not
  refused, leaves the tables as they are exactly if its rows are not accepted or their total is
  within `MAX_SAFE_TOTAL_CENTS`.
* `rejected_finalization_consumes`: a draft that `updateBillableItem` has raised over the limit
  loses a number. -/

namespace Microticket

open Interleaving Tables

/-- An invoicing request that was served. -/
abbrev InvoiceEvent : Type := Event InvoiceOp InvoiceOp.Res

/-- The rows that a finalize call has read. -/
structure FinalizeRows where
  invoice : Invoice
  items : List BillableItem
  project : Project
  inst : Instance

/-- The reads of the items `ids` by program `i`. -/
def itemReads (i : ℕ) (ids : List String) (items : List BillableItem) : List InvoiceEvent :=
  List.zipWith (fun id item => ⟨i, .getBillableItemConsistent id, .ok (some item)⟩) ids items

namespace FinalizeRows

variable (rows : FinalizeRows)

/-- The reads of program `i`, a call for the invoice `id`, in their order. -/
def reads (i : ℕ) (id : String) : List InvoiceEvent :=
  ⟨i, .getInvoiceConsistent id, .ok (some rows.invoice)⟩ ::
    (itemReads i rows.invoice.itemIds rows.items ++
      [⟨i, .getProject rows.invoice.projectId, .ok (some rows.project)⟩,
        ⟨i, .getInstance rows.invoice.instanceId, .ok (some rows.inst)⟩])

/-- The total of the snapshot of the rows. -/
def total : ℤ :=
  itemsSubtotal rows.items +
    if rows.inst.gstRegistered then gstCents (itemsSubtotal rows.items) else 0

/-- The checks of steps 1 to 3 accept the rows. -/
structure Accepted (libs : InvoiceLibs) (auth : Option AuthInfo) (issueDate : String) : Prop where
  member : ∃ userId memberships isSuperuser,
    auth = some (.user userId memberships isSuperuser) ∧
      isMember memberships rows.invoice.instanceId
  draft : rows.invoice.status = .draft
  nonempty : rows.invoice.itemIds ≠ []
  date : ∃ date, validateItemDate libs.dates libs.debug issueDate = .ok date
  found : rows.items.length = rows.invoice.itemIds.length
  attached : ∀ item ∈ rows.items, item.invoiceId = some rows.invoice.id
  businessName : businessNameMissing rows.inst = false

theorem snapshot_total (number : Option ℕ) (date : Option String) :
    (buildSnapshot rows.inst rows.project rows.items number date).totalCents = rows.total :=
  buildSnapshot_total ..

end FinalizeRows

/-! ### Requests of a path -/

/-- The request was answered, not lost to a failure of the infrastructure. -/
def answered (ev : InvoiceEvent) : Bool := ev.res.isOk

/-- The final conditional write of `finalizeInvoice`, refused. -/
def lostRace : InvoiceEvent → Bool
  | ⟨_, .finalizeInvoice .., .ok committed⟩ => !committed
  | _ => false

section
variable {i : ℕ} {op : InvoiceOp} {evs : List InvoiceEvent} {err : Error}

theorem request_done {a : op.Ret} (h : Path i (request op) evs (.done a)) :
    evs = [⟨i, op, .ok a⟩] := by
  cases h with
  | @call _ _ r rest _ h =>
      cases r with
      | ok b =>
          obtain ⟨rfl, hb⟩ := Path.of_done h
          cases hb
          rfl
      | error e => cases h

theorem request_fail (h : Path i (request op) evs (.fail err)) :
    ¬ ∀ ev ∈ evs, answered ev := by
  intro hans
  obtain ⟨r, rest, rfl, hk⟩ := Path.of_call h
  cases r with
  | ok b => cases hk
  | error e => exact absurd (hans _ List.mem_cons_self) Bool.false_ne_true

theorem request_path (op : InvoiceOp) (a : op.Ret) :
    Path i (request op) [⟨i, op, .ok a⟩] (.done a) :=
  .call (.nil (.done a))

/-- The reads of the items, one after the other. -/
theorem items_done {ids : List String} {fetched : List (Option BillableItem)}
    (h : Path i (getBillableItemsConsistent ids) evs (.done fetched)) :
    fetched.length = ids.length ∧ ∀ items, fetched = items.map some →
      evs = itemReads i ids items := by
  induction ids generalizing evs fetched with
  | nil =>
      obtain ⟨rfl, hf⟩ := Path.of_done h
      cases hf
      exact ⟨rfl, fun items _ => rfl⟩
  | cons id ids ih =>
      obtain ⟨item, evs₁, evs₂, rfl, h₁, h₂⟩ := Path.bind_done h
      obtain ⟨rest, evs₃, evs₄, rfl, h₃, h₄⟩ := Path.bind_done h₂
      obtain ⟨rfl, hf⟩ := Path.of_done h₄
      cases hf
      obtain ⟨hlen, hreads⟩ := ih h₃
      refine ⟨congrArg (· + 1) hlen, fun items hitems => ?_⟩
      cases items with
      | nil => cases hitems
      | cons item' items =>
          obtain ⟨rfl, hrest⟩ := List.cons.inj hitems
          rw [hreads items hrest, request_done h₁, List.append_nil]
          rfl

theorem items_path (ids : List String) {items : List BillableItem}
    (hlen : items.length = ids.length) :
    Path i (getBillableItemsConsistent ids) (itemReads i ids items) (.done (items.map some)) := by
  induction ids generalizing items with
  | nil =>
      obtain rfl := List.length_eq_zero_iff.mp hlen
      exact .nil _
  | cons id ids ih =>
      cases items with
      | nil => cases hlen
      | cons item items =>
          have hrest : Path i (getBillableItemsConsistent ids >>= fun as => .done (some item :: as))
              (itemReads i ids items ++ []) (.done (some item :: items.map some)) :=
            (ih (Nat.succ.inj hlen)).bind (.nil _)
          rw [List.append_nil] at hrest
          exact (request_path (.getBillableItemConsistent id) (some item)).bind hrest

/-! ### The paths of `finalizeInvoice` -/

theorem requireInvoiceMember_done {auth : Option AuthInfo} {id : String} {invoice : Invoice}
    (h : Path i (requireInvoiceMember auth id) evs (.done invoice)) :
    evs = [⟨i, .getInvoiceConsistent id, .ok (some invoice)⟩] ∧
      ∃ userId memberships isSuperuser, auth = some (.user userId memberships isSuperuser) ∧
        isMember memberships invoice.instanceId := by
  unfold requireInvoiceMember requireUser at h
  split at h
  · rename_i userId memberships isSuperuser
    rw [Prog.done_bind] at h
    obtain ⟨o, evs₁, evs₂, rfl, hget, hrest⟩ := Path.bind_done h
    obtain rfl := request_done hget
    cases o with
    | none => cases hrest
    | some row =>
        rw [Prog.ofOption_some, Prog.done_bind] at hrest
        by_cases hm : isMember memberships row.instanceId = true
        · rw [Prog.ensure_pos hm, Prog.done_bind] at hrest
          obtain ⟨rfl, hrow⟩ := Path.of_done hrest
          cases hrow
          exact ⟨rfl, userId, memberships, isSuperuser, rfl, hm⟩
        · rw [Prog.ensure_neg hm] at hrest
          cases hrest
  · cases h

theorem requireInvoiceMember_path {auth : Option AuthInfo} {id userId : String}
    {memberships : List Membership} {isSuperuser : Bool} {invoice : Invoice}
    (hauth : auth = some (.user userId memberships isSuperuser))
    (hm : isMember memberships invoice.instanceId) :
    Path i (requireInvoiceMember auth id)
      [⟨i, .getInvoiceConsistent id, .ok (some invoice)⟩] (.done invoice) := by
  subst hauth
  refine (request_path (.getInvoiceConsistent id) (some invoice)).bind ?_
  rw [Prog.ofOption_some, Prog.done_bind, Prog.ensure_pos hm, Prog.done_bind]
  exact .nil _

theorem requireInstance_done {id : String} {inst : Instance}
    (h : Path i (requireInstance id) evs (.done inst)) :
    evs = [⟨i, .getInstance id, .ok (some inst)⟩] := by
  obtain ⟨o, evs₁, evs₂, rfl, hget, hrest⟩ := Path.bind_done h
  obtain rfl := request_done hget
  cases o with
  | none => cases hrest
  | some row =>
      obtain ⟨rfl, hrow⟩ := Path.of_done hrest
      cases hrow
      rfl

/-- Requests that only read. -/
def ReadsOnly (evs : List InvoiceEvent) : Prop := ∀ ev ∈ evs, ev.op.IsRead

theorem ReadsOnly.append {evs' : List InvoiceEvent} (h : ReadsOnly evs) (h' : ReadsOnly evs') :
    ReadsOnly (evs ++ evs') :=
  fun ev hev => (List.mem_append.mp hev).elim (h ev) (h' ev)

/-- The failure of a bind, when its first part only reads. -/
theorem reads_or {α β : Type} {p : InvoiceProg α} {f : α → InvoiceProg β}
    (hp : p.All InvoiceOp.IsRead) (h : Path i (p >>= f) evs (.fail err)) :
    ReadsOnly evs ∨ ∃ a evs₁ evs₂, evs = evs₁ ++ evs₂ ∧ ReadsOnly evs₁ ∧ Path i p evs₁ (.done a) ∧
      Path i (f a) evs₂ (.fail err) := by
  rcases h.bind_fail with h | ⟨a, evs₁, evs₂, heq, h₁, h₂⟩
  · exact .inl (h.all hp)
  · exact .inr ⟨a, evs₁, evs₂, heq, h₁.all hp, h₁, h₂⟩

variable {libs : InvoiceLibs} {auth : Option AuthInfo} {id issueDate : String}

/-- A finalize call that fails has only read, or has reached the allocation with accepted rows. -/
theorem finalizeInvoice_fails (h : Path i (finalizeInvoice libs auth id issueDate) evs (.fail err)) :
    ReadsOnly evs ∨ ∃ (rows : FinalizeRows) (rest : List InvoiceEvent) (userId date : String),
      rows.Accepted libs auth issueDate ∧ evs = rows.reads i id ++ rest ∧
      Path i (allocateAndFinalize libs rows.invoice userId date rows.inst rows.project rows.items)
        rest (.fail err) := by
  have hnil : ReadsOnly [] := fun ev hev => by cases hev
  rcases reads_or (all_requireInvoiceMember (fun _ h => h) auth id) h with
    hr | ⟨invoice, evs₁, evs₂, rfl, hr₁, h₁, h₂⟩
  · exact .inl hr
  obtain ⟨rfl, hmember⟩ := requireInvoiceMember_done h₁
  rcases reads_or (all_requireUser auth) h₂ with hr | ⟨user, evs₃, evs₄, rfl, hr₃, h₃, h₄⟩
  · exact .inl (hr₁.append hr)
  obtain ⟨userId, memberships, isSuperuser, rfl, hm⟩ := hmember
  obtain ⟨rfl, huser⟩ := Path.of_done h₃
  rcases h₄.ensure_fail with ⟨-, rfl⟩ | ⟨hdraft, h₅⟩
  · exact .inl (hr₁.append hnil)
  rcases h₅.ensure_fail with ⟨-, rfl⟩ | ⟨hne, h₆⟩
  · exact .inl (hr₁.append hnil)
  rcases h₆.ofExcept_fail with ⟨-, rfl⟩ | ⟨date, hdate, h₇⟩
  · exact .inl (hr₁.append hnil)
  rcases reads_or (getBillableItemsConsistent_reads _) h₇ with
    hr | ⟨fetched, evs₅, evs₆, rfl, hr₅, h₈, h₉⟩
  · exact .inl (hr₁.append hr)
  obtain ⟨hlen, hitems⟩ := items_done h₈
  rcases h₉.ofExcept_fail with ⟨-, rfl⟩ | ⟨items, hres, h₁₀⟩
  · exact .inl (hr₁.append (hr₅.append hnil))
  obtain ⟨hmap, hattached⟩ := resolveItems_ok hres
  rw [List.map_snd_zip hlen.le] at hmap
  obtain rfl := hitems items hmap
  have hproject : (InvoiceOp.getProject invoice.projectId).IsRead := trivial
  rcases reads_or (all_request hproject) h₁₀ with hr | ⟨o, evs₇, evs₈, rfl, hr₇, h₁₁, h₁₂⟩
  · exact .inl (hr₁.append (hr₅.append hr))
  obtain rfl := request_done h₁₁
  rcases h₁₂.ofOption_fail with ⟨-, rfl⟩ | ⟨project, rfl, h₁₃⟩
  · exact .inl (hr₁.append (hr₅.append (hr₇.append hnil)))
  rcases reads_or (all_requireInstance (fun _ h => h) _) h₁₃ with
    hr | ⟨inst, evs₉, evs₁₀, rfl, hr₉, h₁₄, h₁₅⟩
  · exact .inl (hr₁.append (hr₅.append (hr₇.append hr)))
  obtain rfl := requireInstance_done h₁₄
  rcases h₁₅.ensure_fail with ⟨-, rfl⟩ | ⟨hname, h₁₆⟩
  · exact .inl (hr₁.append (hr₅.append (hr₇.append (hr₉.append hnil))))
  refine .inr ⟨⟨invoice, items, project, inst⟩, evs₁₀, user.1, date, ⟨?_, hdraft, hne, ?_, ?_,
    hattached, hname⟩, ?_, h₁₆⟩
  · exact ⟨userId, memberships, isSuperuser, rfl, hm⟩
  · cases hv : validateItemDate libs.dates libs.debug issueDate with
    | ok date' => exact ⟨date', rfl⟩
    | error e => rw [hv] at hdate; cases hdate
  · rw [← hlen, hmap, List.length_map]
  · simp [FinalizeRows.reads]

theorem resolveItems_of_attached {invoiceId : String} {ids : List String}
    {items : List BillableItem} (hlen : items.length = ids.length)
    (h : ∀ item ∈ items, item.invoiceId = some invoiceId) :
    resolveItems invoiceId (ids.zip (items.map some)) = .ok items := by
  induction ids generalizing items with
  | nil =>
      obtain rfl := List.length_eq_zero_iff.mp hlen
      rfl
  | cons id ids ih =>
      cases items with
      | nil => cases hlen
      | cons item items =>
          rw [List.forall_mem_cons] at h
          rw [List.map_cons, List.zip_cons_cons, resolveItems, if_neg (not_not.mpr h.1),
            ih (Nat.succ.inj hlen) h.2]
          rfl

/-- Accepted rows lead to the allocation. -/
theorem finalizeInvoice_path {rows : FinalizeRows} (h : rows.Accepted libs auth issueDate) :
    ∃ userId date, Path i (finalizeInvoice libs auth id issueDate) (rows.reads i id)
      (allocateAndFinalize libs rows.invoice userId date rows.inst rows.project rows.items) := by
  obtain ⟨⟨userId, memberships, isSuperuser, rfl, hm⟩, hdraft, hne, ⟨date, hdate⟩, hlen, hattached,
    hname⟩ := h
  have hdate' : validated (validateItemDate libs.dates libs.debug issueDate) = .done date := by
    rw [hdate]
    rfl
  have hproject := request_path (i := i) (.getProject rows.invoice.projectId) (some rows.project)
  have hinst : Path i (requireInstance rows.invoice.instanceId)
      [⟨i, .getInstance rows.invoice.instanceId, .ok (some rows.inst)⟩] (.done rows.inst) :=
    (request_path (.getInstance rows.invoice.instanceId) (some rows.inst)).bind (.nil _)
  refine ⟨userId, date, (requireInvoiceMember_path rfl hm).bind ?_⟩
  simp only [requireUser, Prog.done_bind, Prog.ensure_pos hdraft, Prog.ensure_pos hne, hdate']
  refine (items_path _ hlen).bind ?_
  rw [resolveItems_of_attached hlen hattached, Prog.ofExcept_ok, Prog.done_bind]
  refine hproject.bind ?_
  rw [Prog.ofOption_some, Prog.done_bind]
  refine (Path.bind hinst ?_)
  rw [Prog.ensure_pos hname, Prog.done_bind]
  exact .nil _

/-- The last steps of `finalize_invoice` fail, once answered, only for the total or a lost race. -/
theorem allocateAndFinalize_fails {rows : FinalizeRows} {userId date : String}
    (hjson : ∀ snapshot, ∃ json, libs.toJson snapshot = .ok json)
    (h : Path i (allocateAndFinalize libs rows.invoice userId date rows.inst rows.project
      rows.items) evs (.fail err)) (hans : ∀ ev ∈ evs, answered ev) :
    maxSafeTotalCents < rows.total ∨ ∃ ev ∈ evs, lostRace ev := by
  rcases h.bind_fail with h | ⟨n, evs₁, evs₂, rfl, h₁, h₂⟩
  · exact absurd hans (request_fail h)
  rcases h₂.ofExcept_fail with ⟨htotal, -⟩ | ⟨_, -, h₃⟩
  · refine .inl ?_
    rw [rows.snapshot_total] at htotal
    by_contra hle
    rw [validateTotalWithinSafeInteger, if_neg hle] at htotal
    cases htotal
  obtain ⟨json, hj⟩ := hjson (buildSnapshot rows.inst rows.project rows.items
    (some (numberOfCounter n)) (some date))
  rcases h₃.ofExcept_fail with ⟨hfail, -⟩ | ⟨json', -, h₄⟩
  · rw [hj] at hfail
    cases hfail
  rcases h₄.bind_fail with h₄ | ⟨committed, evs₃, evs₄, rfl, h₅, h₆⟩
  · exact absurd (fun ev hev => hans ev (List.mem_append_right _ hev)) (request_fail h₄)
  rcases h₆.ensure_fail with ⟨hrefused, -⟩ | ⟨-, h₇⟩
  · obtain rfl := request_done h₅
    refine .inr ⟨_, List.mem_append_right _ (List.mem_append_left _ List.mem_cons_self), ?_⟩
    show (!committed) = true
    rw [Bool.eq_false_of_not_eq_true hrefused]
    rfl
  · cases h₇

end

/-! ### What a rejected call leaves -/

section
variable {libs : InvoiceLibs} {readOnly : Bool} {auth : Option AuthInfo} {id issueDate : String}
variable {c c' : Pool (invoiceService readOnly) Error Unit} {i : ℕ} {err : Error}

/-- Reads leave the tables as they are. -/
theorem tables_of_read {ev : InvoiceEvent}
    (h : Serves (invoiceService readOnly) (IsInvoiceMutation libs) c c' ev) (hev : ev.op.IsRead) :
    invoiceTables c' = invoiceTables c := by
  obtain ⟨e, k, -, -, htrace, -⟩ := h.trace
  have hstate : c'.trace.state = c.trace.state := by
    rw [htrace]
    exact hev.state c.trace.state e
  rw [invoiceTables, invoiceTables, hstate]

/-- An answered increment changes the tables. -/
theorem tables_of_increment {inst : String} {n : ℕ}
    (h : Serves (invoiceService readOnly) (IsInvoiceMutation libs) c c'
      ⟨i, .incrementInvoiceCounter inst, .ok n⟩) : invoiceTables c' ≠ invoiceTables c := by
  obtain ⟨e, k, -, -, htrace, hres⟩ := h.trace
  obtain ⟨hn, hn'⟩ := serve_increment hres.symm
  intro heq
  have hcounter : (invoiceTables c').counter inst = n := by
    rw [invoiceTables, htrace]
    exact hn'
  rw [heq] at hcounter
  exact Nat.succ_ne_self _ (hn.symm.trans hcounter.symm)

/-- The requests of program `i` between `c` and `c'` leave the tables as they are. -/
def KeepsTables (libs : InvoiceLibs) (i : ℕ) (c c' : Pool (invoiceService readOnly) Error Unit) :
    Prop :=
  ∀ c₁ c₂ ev, Run (invoiceService readOnly) (IsInvoiceMutation libs) c c₁ →
    Serves (invoiceService readOnly) (IsInvoiceMutation libs) c₁ c₂ ev → ev.caller = i →
    Run (invoiceService readOnly) (IsInvoiceMutation libs) c₂ c' →
    invoiceTables c₂ = invoiceTables c₁

/-- A finalize call that returns an error, with all its requests answered and without losing the
last write to a concurrent change, leaves the tables as they are at each of its requests if and only
if the rows that it read fail one of the checks before the allocation or have a total of at most
`MAX_SAFE_TOTAL_CENTS`. -/
theorem rejected_finalization (hjson : ∀ snapshot, ∃ json, libs.toJson snapshot = .ok json)
    (hi : c.threads[i]? = some (finalizeInvoice libs auth id issueDate).void)
    (hrun : Run (invoiceService readOnly) (IsInvoiceMutation libs) c c')
    (hfail : c'.threads[i]? = some (.fail err))
    (hans : ∀ ev ∈ c.since c', ev.caller = i → answered ev)
    (hrace : ∀ ev ∈ c.since c', ev.caller = i → ¬ lostRace ev) :
    KeepsTables libs i c c' ↔ ∀ rows : FinalizeRows, rows.reads i id <+: ownEvents i (c.since c') →
      rows.Accepted libs auth issueDate → rows.total ≤ maxSafeTotalCents := by
  obtain ⟨q, hq, hpath⟩ := Run.path hrun hi
  obtain rfl := Option.some.inj (hfail.symm.trans hq)
  have hcall : Path i (finalizeInvoice libs auth id issueDate) (ownEvents i (c.since c'))
      (.fail err) := by
    rcases hpath.bind_fail with h | ⟨a, evs₁, evs₂, -, -, h⟩
    · exact h
    · cases h
  have hown : ∀ ev ∈ ownEvents i (c.since c'), answered ev := fun ev hev =>
    hans ev (mem_ownEvents.mp hev).1 (mem_ownEvents.mp hev).2
  constructor
  · rintro hkept rows ⟨rest, hrest⟩ hacc
    obtain ⟨userId, date, hreads⟩ := finalizeInvoice_path hacc
    rw [← hrest] at hcall hown
    obtain ⟨r, evs, rfl, -⟩ := Path.of_call (hreads.drop hcall)
    have hmem : (⟨i, .incrementInvoiceCounter rows.invoice.instanceId, r⟩ : InvoiceEvent) ∈
        rows.reads i id ++ ⟨i, .incrementInvoiceCounter rows.invoice.instanceId, r⟩ :: evs :=
      List.mem_append_right _ List.mem_cons_self
    cases r with
    | error e => exact absurd (hown _ hmem) Bool.false_ne_true
    | ok n =>
        rw [hrest] at hmem
        obtain ⟨c₁, c₂, h₁, h₂, h₃⟩ := Run.split hrun (mem_ownEvents.mp hmem).1
        exact absurd (hkept _ _ _ h₁ h₂ rfl h₃) (tables_of_increment h₂)
  · intro hwithin c₁ c₂ ev h₁ h₂ hev h₃
    have hmem : ev ∈ ownEvents i (c.since c') := mem_ownEvents.mpr ⟨Run.mem_since h₁ h₂ h₃, hev⟩
    rcases finalizeInvoice_fails hcall with hreads | ⟨rows, rest, userId, date, hacc, heq, halloc⟩
    · exact tables_of_read h₂ (hreads ev hmem)
    · have htotal := hwithin rows ⟨rest, heq.symm⟩ hacc
      rw [heq] at hown
      rcases allocateAndFinalize_fails hjson halloc
        fun ev hev => hown ev (List.mem_append_right _ hev) with hover | ⟨ev', hev', hlost⟩
      · exact absurd htotal (Int.not_le.mpr hover)
      · have hmem' : ev' ∈ ownEvents i (c.since c') := heq ▸ List.mem_append_right _ hev'
        exact absurd hlost (hrace ev' (mem_ownEvents.mp hmem').1 (mem_ownEvents.mp hmem').2)

end

/-! ### A draft over the limit -/

/-- Eight items of the largest amount and a small one are put on a draft; then an edit makes the
small one large as well. -/
def sampleOverLimit : List SampleMove :=
  [(0, "b1", "1000000", 1000000000), (1, "b2", "1000000", 1000000000),
    (2, "b3", "1000000", 1000000000), (3, "b4", "1000000", 1000000000),
    (4, "b5", "1000000", 1000000000), (5, "b6", "1000000", 1000000000),
    (6, "b7", "1000000", 1000000000), (7, "b8", "1000000", 1000000000),
    (8, "b9", "1.5", 10000)].flatMap (fun (i, id, quantity, price) =>
      sampleCall (.createBillableItem sampleOwner "p1" ⟨"2026-06-30", "Repairs", quantity, price⟩) ::
        sampleServe i ["r", id]) ++
    [sampleCall (.createInvoice sampleOwner "p1"
      ["b1", "b2", "b3", "b4", "b5", "b6", "b7", "b8", "b9"])] ++
    sampleServe 9 (List.replicate 11 "r" ++ ["v1"]) ++
    [sampleCall (.updateBillableItem sampleOwner "b9"
      ⟨"2026-06-30", "Repairs", "1000000", 1000000000⟩)] ++ sampleServe 10 ["r", "r", "u1"]

/-- A call that finalizes the draft has been started. -/
def sampleRejected : List SampleMove :=
  sampleOverLimit ++ [sampleCall (.finalizeInvoice sampleOwner "v1" "2026-07-01")]

/-- Its reads have been served. -/
def sampleAllocating : List SampleMove := sampleRejected ++ sampleServe 11 (List.replicate 12 "r")

theorem sampleRejected_call : (samplePool sampleRejected).threads[11]? =
    some (finalizeInvoice sampleLibs sampleOwner "v1" "2026-07-01").void :=
  samplePool_call (.finalizeInvoice sampleOwner "v1" "2026-07-01") (by decide +kernel)

theorem sampleRejected_run : Run (invoiceService false) (IsInvoiceMutation sampleLibs)
    (samplePool sampleRejected) (samplePool (sampleAllocating ++ sampleServe 11 ["c1"])) :=
  (samplePool_run _ _).trans (samplePool_run _ _)

theorem sampleRejected_failure :
    (samplePool (sampleAllocating ++ sampleServe 11 ["c1"])).threads[11]? = some (.fail (.other
      "Invoice total would exceed the maximum value this application supports")) :=
  Pool.failure_some (by decide +kernel)

theorem sampleRejected_answered : ∀ ev ∈ (samplePool sampleRejected).since
    (samplePool (sampleAllocating ++ sampleServe 11 ["c1"])), answered ev ∧ ¬ lostRace ev := by
  decide +kernel

theorem sampleRejected_increment : Serves (invoiceService false) (IsInvoiceMutation sampleLibs)
    (samplePool sampleAllocating) (samplePool (sampleAllocating ++ sampleServe 11 ["c1"]))
    ⟨11, .incrementInvoiceCounter "i1", .ok 1⟩ :=
  samplePool_serves (by decide +kernel) (by decide +kernel) (by decide +kernel)

/-- The rows that the sample call read are accepted, and their total is over the limit. -/
theorem rejected_finalization_sample : ∃ rows : FinalizeRows,
    rows.Accepted sampleLibs sampleOwner "2026-07-01" ∧ maxSafeTotalCents < rows.total := by
  have hiff := rejected_finalization (fun snapshot => ⟨snapshotJson snapshot, rfl⟩)
    sampleRejected_call sampleRejected_run sampleRejected_failure
    (fun ev hev _ => (sampleRejected_answered ev hev).1)
    (fun ev hev _ => (sampleRejected_answered ev hev).2)
  by_contra hnone
  simp only [not_exists, not_and, not_lt] at hnone
  have hkept := hiff.mpr fun rows _ hacc => hnone rows hacc
  exact tables_of_increment sampleRejected_increment
    (hkept _ _ _ (samplePool_run _ _) sampleRejected_increment rfl .refl)

/-- A rejected finalization may have taken a number. -/
theorem rejected_finalization_consumes : ¬ ∀ (libs : InvoiceLibs) (readOnly : Bool)
    (auth : Option AuthInfo) (id issueDate : String) (i : ℕ) (err : Error)
    (c c' : Pool (invoiceService readOnly) Error Unit), InvoiceReachable libs readOnly c →
    (∀ snapshot, ∃ json, libs.toJson snapshot = .ok json) →
    c.threads[i]? = some (finalizeInvoice libs auth id issueDate).void →
    Run (invoiceService readOnly) (IsInvoiceMutation libs) c c' →
    c'.threads[i]? = some (.fail err) →
    (∀ ev ∈ c.since c', ev.caller = i → answered ev) →
    (∀ ev ∈ c.since c', ev.caller = i → ¬ lostRace ev) → KeepsTables libs i c c' := by
  intro h
  have hkept := h sampleLibs false sampleOwner "v1" "2026-07-01" 11 _ _ _
    (samplePool_reachable sampleRejected) (fun snapshot => ⟨snapshotJson snapshot, rfl⟩)
    sampleRejected_call sampleRejected_run sampleRejected_failure
    (fun ev hev _ => (sampleRejected_answered ev hev).1)
    (fun ev hev _ => (sampleRejected_answered ev hev).2)
  exact tables_of_increment sampleRejected_increment
    (hkept _ _ _ (samplePool_run _ _) sampleRejected_increment rfl .refl)

end Microticket

import Microticket.InvoiceInvariant

/-! # Finalized invoices

Two consequences of the discipline of `InvoiceInvariant` for finalized invoices.

* `invoice_finality`: along every run from a reachable state, a finalized invoice stays, and only
  `paid_date`, `pdf_s3_key` and `updated_at` of it may change; its items stay as they are.
* `finalize_snapshot_fresh`: the step that finalizes an invoice writes the snapshot of exactly the
  item rows that are on it at that moment. -/

namespace Microticket

open Interleaving Tables

/-- The sample invoice is marked paid. -/
def samplePaid : List SampleMove :=
  [sampleCall (.setInvoicePaid sampleOwner "v1" (some "2026-07-09"))] ++ sampleServe 3 ["r9", "w1"]

section
variable {libs : InvoiceLibs} {readOnly : Bool}
variable {c c' : Pool (invoiceService readOnly) Error Unit}

/-- Along a run from a reachable pool the tables evolve. -/
theorem InvoiceReachable.evolves (h : InvoiceReachable libs readOnly c)
    (hrun : Run (invoiceService readOnly) (IsInvoiceMutation libs) c c') :
    InvoiceStore.Evolves c.trace.state c'.trace.state :=
  Run.follows (invoiceDiscipline libs readOnly)
    (R := fun t t' => InvoiceStore.Evolves t.state t'.state) (fun _ => .refl _) .trans
    (fun hs he hp => (InvoiceStore.Sound.serve hs readOnly he hp.1).2)
    (invoice_starts libs readOnly) hrun h.holds

/-- Once an invoice is finalized, no interleaving of the mutations ever changes its frozen part,
deletes it, or changes, detaches or deletes one of its items. -/
theorem invoice_finality (h : InvoiceReachable libs readOnly c)
    (hrun : Run (invoiceService readOnly) (IsInvoiceMutation libs) c c')
    {id : String} {invoice : Invoice} (hl : (invoiceTables c).invoices.lookup id = some invoice)
    (hf : invoice.status = .finalized) :
    (∃ invoice', (invoiceTables c').invoices.lookup id = some invoice' ∧
      invoice'.frozen = invoice.frozen) ∧
    ∀ itemId item, (invoiceTables c).items.lookup itemId = some item →
      item.invoiceId = some id → (invoiceTables c').items.lookup itemId = some item := by
  have hsound : InvoiceStore.Sound c.trace.state := h.holds.inv
  have hbox := InvoiceDb.ledger_boxes_of hl
  obtain ⟨hkept, hmembers⟩ :=
    ((h.evolves hrun).follows (hsound.minted hl)).closed hbox (Invoice.box_closed.mpr hf)
  refine ⟨?_, fun itemId item hi ho => ?_⟩
  · obtain ⟨invoice', hl', heq⟩ := InvoiceDb.ledger_boxes_some.mp hkept
    exact ⟨invoice', hl', congrArg Ledger.Box.data heq⟩
  · obtain ⟨box, hb, hmem⟩ := hsound.consistent.owner (InvoiceDb.ledger_items_of hi) ho
    obtain rfl := Option.some.inj (hbox.symm.trans hb)
    have hsame := (hmembers itemId hmem).trans (InvoiceDb.ledger_items_of hi)
    obtain ⟨item', hi', heq⟩ := InvoiceDb.ledger_items_some.mp hsame
    exact BillableItem.entry_injective heq ▸ hi'

/-- The sample invoice is finalized and then marked paid. -/
theorem invoice_finality_sample : ∃ invoice invoice',
    (invoiceTables (samplePool sampleFinalized)).invoices.lookup "v1" = some invoice ∧
    (invoiceTables ((samplePool sampleFinalized).play samplePaid)).invoices.lookup "v1" =
      some invoice' ∧
    invoice'.frozen = invoice.frozen := by
  have hl : ((invoiceTables (samplePool sampleFinalized)).invoices.lookup "v1").map
      Invoice.status = some .finalized := by decide +kernel
  obtain ⟨invoice, hl, hf⟩ := Option.map_eq_some_iff.mp hl
  obtain ⟨⟨invoice', hl', hfrozen⟩, -⟩ := invoice_finality (samplePool_reachable sampleFinalized)
    (Pool.play_run _ samplePaid) hl hf
  exact ⟨invoice, invoice', hl, hl', hfrozen⟩

/-- When a step finalizes an invoice, its snapshot and total are `build_snapshot` of exactly the item
rows that are on the invoice at that moment, with committed rows of its instance and project. -/
theorem finalize_snapshot_fresh (h : InvoiceReachable libs readOnly c)
    (hstep : Step (invoiceService readOnly) (IsInvoiceMutation libs) c c') {id : String}
    {invoice : Invoice} (hl : (invoiceTables c').invoices.lookup id = some invoice)
    (hf : invoice.status = .finalized) (hnew : ¬ (invoiceTables c).Finalized id) :
    ∃ inst project rows number issueDate snapshotJson,
      (∃ d, (InvoiceStore.db c.trace.state).Committed d ∧
        d.instances.lookup invoice.instanceId = some inst) ∧
      (∃ d, (InvoiceStore.db c.trace.state).Committed d ∧
        d.projects.lookup invoice.projectId = some project) ∧
      (invoiceTables c).ItemsOf id rows ∧
      libs.toJson (buildSnapshot inst project rows (some number) (some issueDate)) =
        .ok snapshotJson ∧
      invoice.number = some number ∧ invoice.snapshot = some snapshotJson ∧
      invoice.totalCents =
        some (buildSnapshot inst project rows (some number) (some issueDate)).totalCents := by
  cases hstep with
  | start p hp => exact absurd ⟨invoice, hl, hf⟩ hnew
  | serve i e hi he =>
      rename_i op k
      have hpre := h.holds.pre hi
      have hcloses := InvoiceStore.Sound.closes h.holds.inv hpre.1 hl hf hnew
      cases op with
      | finalizeInvoice invoiceId version number issueDate snapshotJson total userId =>
          obtain ⟨rfl, draft, hat, hinst, hproject, hnumber, hsnapshot, htotal⟩ := hcloses
          obtain ⟨inst, project, rows, hi', hp, hrows, hjson, rfl⟩ := hpre.2 draft hat
          exact ⟨inst, project, rows, number, issueDate, snapshotJson, hinst ▸ hi', hproject ▸ hp,
            hrows, hjson, hnumber, hsnapshot, htotal⟩
      | _ => exact hcloses.elim

end

/-- The last step of the sample finalization: the snapshot is that of the one item. -/
theorem finalize_snapshot_fresh_sample : ∃ invoice rows,
    (invoiceTables (samplePool sampleFinalized)).invoices.lookup "v1" = some invoice ∧
    invoice.totalCents = some 16500 ∧
    (invoiceTables (samplePool sampleFinalizing)).ItemsOf "v1" rows := by
  have hl : ((invoiceTables (samplePool sampleFinalized)).invoices.lookup "v1").map
      (fun invoice => (invoice.status, invoice.totalCents)) = some (.finalized, some 16500) := by
    decide +kernel
  obtain ⟨invoice, hl, hf⟩ := Option.map_eq_some_iff.mp hl
  obtain ⟨hf, htotal⟩ := Prod.mk.inj hf
  have hdraft : ((invoiceTables (samplePool sampleFinalizing)).invoices.lookup "v1").map
      Invoice.status = some .draft := by decide +kernel
  have hnew : ¬ (invoiceTables (samplePool sampleFinalizing)).Finalized "v1" := by
    rintro ⟨draft, hd, hs⟩
    rw [hd, Option.map_some, hs] at hdraft
    cases hdraft
  have hnext : ((samplePool sampleFinalizing).next 2).isSome := by decide +kernel
  obtain ⟨op, hop⟩ := Option.isSome_iff_exists.mp hnext
  have hfresh : "f1" ∉ InvoiceStore.minted (samplePool sampleFinalizing).trace.state := by
    decide +kernel
  have hserve := samplePool_serves hop hfresh rfl
  obtain ⟨_, _, rows, _, _, _, _, _, hrows, -⟩ := finalize_snapshot_fresh
    (samplePool_reachable sampleFinalizing) hserve.1 hl hf hnew
  exact ⟨invoice, rows, hl, htotal, hrows⟩

end Microticket

import Microticket.Money
import Mathlib.Algebra.BigOperators.Group.List.Basic
import Mathlib.Algebra.Ring.Int.Defs
import Mathlib.Data.List.Sort

/-! # The frozen content of an invoice

`invoicing/snapshot.rs`: `buildSnapshot` computes what an invoice prints from the instance, the
project and the items, for the live preview of a draft and for the JSON that finalization writes.

The lines are the items in the order of `date` then `created_at`, ties in the order given, which is
what a stable sort returns.  The total does not depend on the order of the items
(`buildSnapshot_total_perm`). -/

namespace Microticket

open RustText

/-- `InvoiceSnapshotSeller`. -/
structure InvoiceSnapshotSeller where
  name : Option String
  abn : Option String
  address : Option String
  phone : Option String
  email : Option String
  deriving DecidableEq, Repr

/-- `InvoiceSnapshotBillTo`. -/
structure InvoiceSnapshotBillTo where
  name : String
  abn : Option String
  address : Option String
  deriving DecidableEq, Repr

/-- `InvoiceSnapshotLine`. -/
structure InvoiceSnapshotLine where
  date : String
  description : String
  quantity : String
  quantityHundredths : ℤ
  unitPriceCents : ℤ
  amountCents : ℤ
  deriving DecidableEq, Repr

/-- `InvoiceSnapshot`. -/
structure InvoiceSnapshot where
  schemaVersion : ℕ
  title : String
  displayNumber : Option String
  issueDate : Option String
  seller : InvoiceSnapshotSeller
  billTo : InvoiceSnapshotBillTo
  reference : Option String
  currency : String
  gstRegistered : Bool
  lines : List InvoiceSnapshotLine
  subtotalCents : ℤ
  gstCents : ℤ
  totalCents : ℤ
  paymentDetails : Option String
  noGstNote : Bool
  deriving DecidableEq, Repr

def schemaVersion : ℕ := 1

/-- The printed line of an item. -/
def snapshotLine (item : BillableItem) : InvoiceSnapshotLine where
  date := item.date
  description := item.description
  quantity := formatQuantity item.quantityHundredths
  quantityHundredths := item.quantityHundredths
  unitPriceCents := item.unitPriceCents
  amountCents := lineAmountCents item.quantityHundredths item.unitPriceCents

/-- The order of the printed lines: by `date`, then by `created_at`. -/
def printsBefore (a b : BillableItem) : Prop :=
  a.date < b.date ∨ a.date = b.date ∧ a.createdAt ≤ b.createdAt

instance : DecidableRel printsBefore :=
  fun a b => inferInstanceAs (Decidable (a.date < b.date ∨ a.date = b.date ∧ _))

/-- `build_snapshot`. -/
def buildSnapshot (inst : Instance) (project : Project) (items : List BillableItem)
    (number : Option ℕ) (issueDate : Option String) : InvoiceSnapshot :=
  let lines := (items.insertionSort printsBefore).map snapshotLine
  let subtotal := (lines.map InvoiceSnapshotLine.amountCents).sum
  let gst := if inst.gstRegistered then gstCents subtotal else 0
  { schemaVersion
    title := if inst.gstRegistered then "Tax Invoice" else "Invoice"
    displayNumber := number.map (zeroPadded 3)
    issueDate
    seller :=
      { name := inst.businessName, abn := inst.businessAbn, address := inst.businessAddress,
        phone := inst.businessPhone, email := inst.businessEmail }
    billTo :=
      { name := project.clientName, abn := project.clientAbn, address := project.clientAddress }
    reference := project.reference
    currency := inst.currencyOrDefault
    gstRegistered := inst.gstRegistered
    lines
    subtotalCents := subtotal
    gstCents := gst
    totalCents := subtotal + gst
    paymentDetails := inst.paymentDetails
    noGstNote := !inst.gstRegistered }

/-! ### Totals -/

/-- The sum of the line amounts of some items. -/
def itemsSubtotal (items : List BillableItem) : ℤ :=
  (items.map fun it => lineAmountCents it.quantityHundredths it.unitPriceCents).sum

theorem itemsSubtotal_perm {items items' : List BillableItem} (h : items.Perm items') :
    itemsSubtotal items = itemsSubtotal items' := (h.map _).sum_eq

theorem buildSnapshot_subtotal (inst : Instance) (project : Project) (items : List BillableItem)
    (number : Option ℕ) (issueDate : Option String) :
    (buildSnapshot inst project items number issueDate).subtotalCents = itemsSubtotal items := by
  have h := itemsSubtotal_perm (List.perm_insertionSort printsBefore items)
  simp only [buildSnapshot, List.map_map]
  exact h

theorem buildSnapshot_total (inst : Instance) (project : Project) (items : List BillableItem)
    (number : Option ℕ) (issueDate : Option String) :
    (buildSnapshot inst project items number issueDate).totalCents = itemsSubtotal items +
      if inst.gstRegistered then gstCents (itemsSubtotal items) else 0 := by
  rw [← buildSnapshot_subtotal inst project items number issueDate]
  rfl

/-- The total depends on the items only, not on the order in which they were read. -/
theorem buildSnapshot_total_perm {items items' : List BillableItem} (h : items.Perm items')
    (inst : Instance) (project : Project) (number : Option ℕ) (issueDate : Option String) :
    (buildSnapshot inst project items number issueDate).totalCents =
      (buildSnapshot inst project items' number issueDate).totalCents := by
  rw [buildSnapshot_total, buildSnapshot_total, itemsSubtotal_perm h]

/-- `check_invoice_total_within_safe_integer` of `graphql/mutations.rs`. -/
def checkInvoiceTotalWithinSafeInteger (items : List BillableItem) (gstRegistered : Bool) :
    Except String Unit :=
  let subtotal := itemsSubtotal items
  let gst := if gstRegistered then gstCents subtotal else 0
  validateTotalWithinSafeInteger (clampI64 (subtotal + gst))

end Microticket

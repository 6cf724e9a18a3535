import Microticket.Snapshot
import Microticket.TextLayout

/-! # The printed invoice

`render_invoice_pdf` of `invoicing/pdf.rs`, as the texts it puts on the pages: every text with its page,
its position and its font.  Four blocks follow one another down the pages, with one cursor (`Cursor`). -/

namespace Microticket.Pdf

open RustText

/-! ### Geometry -/

def pageW : ℚ := 59528 / 100
def pageH : ℚ := 84189 / 100
def marginLeft : ℚ := 57
def marginRight : ℚ := 538
def bottomMargin : ℚ := 50
def continuationTop : ℚ := 780
def titleY : ℚ := 755
def titleSize : ℚ := 30
def columnsTop : ℚ := 705
def columnFontSize : ℚ := 14
def columnLineHeight : ℚ := 16
def tableTopGap : ℚ := 28
def pageMid : ℚ := pageW / 2
def columnGutter : ℚ := 12
def leftColumnMaxWidth : ℚ := pageMid - columnGutter - marginLeft
def rightColumnMaxWidth : ℚ := marginRight - (pageMid + columnGutter)
def paymentContentWidth : ℚ := marginRight - marginLeft
def colDescX0 : ℚ := marginLeft
def colDescX1 : ℚ := 342
def colQtyX1 : ℚ := 408
def colPriceX1 : ℚ := 473
def colTotalX1 : ℚ := marginRight
def cellPad : ℚ := 6
def headerRowHeight : ℚ := 22
def headerFontSize : ℚ := 12
def totalsFontSize : ℚ := 12
def totalsLineHeight : ℚ := 16
def noteFontSize : ℚ := 14
def paymentFontSize : ℚ := 12
def paymentLineHeight : ℚ := 14

/-! ### Drawing -/

/-- A text on a page; `y` is its baseline. -/
structure Drawn where
  page : ℕ
  x : ℚ
  y : ℚ
  size : ℚ
  bold : Bool
  text : String

/-- `draw_left`. -/
def drawLeft (page : ℕ) (bold : Bool) (text : String) (size x y : ℚ) : List Drawn :=
  if text.isEmpty then [] else [⟨page, x, y, size, bold, text⟩]

/-- `draw_right`. -/
def drawRight (metrics : Metrics) (page : ℕ) (bold : Bool) (text : String) (size rightX y : ℚ) :
    List Drawn :=
  if text.isEmpty then []
  else [⟨page, rightX - metrics.width text size bold, y, size, bold, text⟩]

/-- The page that is drawn on, and how far down. -/
structure Cursor where
  page : ℕ
  y : ℚ

/-- `add_page`. -/
def Cursor.addPage (c : Cursor) : Cursor := ⟨c.page + 1, continuationTop⟩

/-- A new page if the height would cross the margin. -/
def Cursor.room (c : Cursor) (height : ℚ) : Cursor :=
  if c.y - height < bottomMargin then c.addPage else c

def Cursor.down (c : Cursor) (height : ℚ) : Cursor := ⟨c.page, c.y - height⟩

/-- A loop that draws every element at the cursor. -/
def drawEach {α : Type} (draw : α → Cursor → Cursor × List Drawn) :
    List α → Cursor → Cursor × List Drawn
  | [], c => (c, [])
  | a :: rest, c =>
      let (c, drawn) := draw a c
      let (c, others) := drawEach draw rest c
      (c, drawn ++ others)

/-! ### Header -/

/-- `HeaderRow`. -/
abbrev HeaderRow : Type := Option (String × Bool)

/-- `as_deref().filter(|s| !s.is_empty())`. -/
def nonEmpty (text : Option String) : Option String := text.filter (!·.isEmpty)

/-- The rows of a wrapped text. -/
def textRows (metrics : Metrics) (maxWidth : ℚ) (text : String) : List HeaderRow :=
  (wrapTextLines metrics text maxWidth columnFontSize).map fun line => some (line, false)

/-- The rows of an optional text. -/
def fieldRows (metrics : Metrics) (maxWidth : ℚ) (text : Option String) : List HeaderRow :=
  match nonEmpty text with
  | some text => textRows metrics maxWidth text
  | none => []

/-- `build_left_column_rows`. -/
def buildLeftColumnRows (metrics : Metrics) (snap : InvoiceSnapshot) (maxWidth : ℚ) :
    List HeaderRow :=
  let issueDate := snap.issueDate.getD ""
  let number := snap.displayNumber.getD "Draft"
  [some (s!"Invoice date: {formatDdmmyyyy issueDate}", false),
    some (s!"Invoice number: {number}", false), none, some ("Invoice to", true)] ++
  textRows metrics maxWidth snap.billTo.name ++
  fieldRows metrics maxWidth ((nonEmpty snap.billTo.abn).map fun abn => s!"ABN: {abn}") ++
  fieldRows metrics maxWidth snap.billTo.address ++
  match nonEmpty snap.reference with
  | some reference => none :: some ("Reference", true) :: textRows metrics maxWidth reference
  | none => []

/-- `build_right_column_rows`. -/
def buildRightColumnRows (metrics : Metrics) (snap : InvoiceSnapshot) (maxWidth : ℚ) :
    List HeaderRow :=
  fieldRows metrics maxWidth snap.seller.name ++ fieldRows metrics maxWidth snap.seller.address ++
  (if (nonEmpty snap.seller.phone).isSome || (nonEmpty snap.seller.email).isSome then
    none :: some ("Contact", true) :: (fieldRows metrics maxWidth snap.seller.phone ++
      fieldRows metrics maxWidth snap.seller.email)
  else []) ++
  match nonEmpty snap.seller.abn with
  | some abn => none :: some ("ABN", true) :: textRows metrics maxWidth abn
  | none => []

/-- The rows of both columns, side by side. -/
def columnRows (metrics : Metrics) (snap : InvoiceSnapshot) : List (HeaderRow × HeaderRow) :=
  let leftRows := buildLeftColumnRows metrics snap leftColumnMaxWidth
  let rightRows := buildRightColumnRows metrics snap rightColumnMaxWidth
  (List.range (max leftRows.length rightRows.length)).map fun i =>
    (leftRows[i]?.join, rightRows[i]?.join)

/-- One turn of the loop of `draw_header_block`. -/
def drawColumns (metrics : Metrics) (row : HeaderRow × HeaderRow) (c : Cursor) :
    Cursor × List Drawn :=
  let c := c.room columnLineHeight
  let left := match row.1 with
    | some (text, bold) => drawLeft c.page bold text columnFontSize marginLeft c.y
    | none => []
  let right := match row.2 with
    | some (text, bold) => drawRight metrics c.page bold text columnFontSize marginRight c.y
    | none => []
  (c.down columnLineHeight, left ++ right)

/-! ### Table -/

/-- `draw_table_header`. -/
def drawTableHeader (metrics : Metrics) (currency : String) (c : Cursor) : Cursor × List Drawn :=
  let textY := c.y - headerRowHeight / 2 - headerFontSize * (36 / 100)
  (c.down headerRowHeight,
    drawLeft c.page true "Description" headerFontSize (colDescX0 + cellPad) textY ++
    ([("Quantity", colQtyX1), ("Unit Price", colPriceX1), (currency, colTotalX1)].flatMap
      fun (label, rightX) =>
        drawRight metrics c.page true label headerFontSize (rightX - cellPad) textY))

/-- The description lines of `draw_table_row`. -/
def drawDescLines (page : ℕ) : List DescLine → ℚ → List Drawn
  | [], _ => []
  | line :: rest, y =>
      let baseX := colDescX0 + cellPad + line.indent
      (if line.bulletStart then
        drawLeft page false "•" bodyFontSize (baseX - bulletIndent * (6 / 10)) y else []) ++
      drawLeft page false line.text bodyFontSize baseX y ++
      drawDescLines page rest (y - bodyLineHeight)

/-- The first baseline of a row. -/
def Cursor.firstLine (c : Cursor) : ℚ := c.y - rowVPad / 2 - bodyFontSize * (36 / 100)

/-- `draw_table_row`. -/
def drawTableRow (metrics : Metrics) (line : InvoiceSnapshotLine) (descLines : List DescLine)
    (c : Cursor) : Cursor × List Drawn :=
  let cell (text : String) (rightX : ℚ) :=
    drawRight metrics c.page false text bodyFontSize (rightX - cellPad) c.firstLine
  (c.down (rowHeight descLines.length),
    drawDescLines c.page descLines c.firstLine ++ cell line.quantity colQtyX1 ++
    cell (formatCents line.unitPriceCents) colPriceX1 ++
    cell (formatCents line.amountCents) colTotalX1)

/-- The layout of the description of a line. -/
def descriptionLines (metrics : Metrics) (line : InvoiceSnapshotLine) : List DescLine :=
  layoutDescription metrics line.description (colDescX1 - colDescX0 - 2 * cellPad)

/-- Where a row begins: on a new page, below the table header, if it would cross the margin. -/
def rowStart (metrics : Metrics) (currency : String) (descLines : List DescLine) (c : Cursor) :
    Cursor × List Drawn :=
  if c.y - rowHeight descLines.length < bottomMargin then drawTableHeader metrics currency c.addPage
  else (c, [])

/-- A row of the table: where its top is, the table header if it is drawn again, and its texts. -/
structure TableRow where
  start : Cursor
  header : List Drawn
  cells : List Drawn

/-- The loop of `render_invoice_pdf`. -/
def drawRows (metrics : Metrics) (currency : String) :
    List InvoiceSnapshotLine → Cursor → Cursor × List TableRow
  | [], c => (c, [])
  | line :: rest, c =>
      let descLines := descriptionLines metrics line
      let (start, header) := rowStart metrics currency descLines c
      let (c, cells) := drawTableRow metrics line descLines start
      let (c, rows) := drawRows metrics currency rest c
      (c, ⟨start, header, cells⟩ :: rows)

/-! ### Totals and notes -/

/-- The lines of `draw_totals`, and whether they are bold. -/
def totalsLines (snap : InvoiceSnapshot) : List (Bool × String) :=
  (if snap.gstRegistered then
    [(false, s!"Subtotal {snap.currency}   {formatCents snap.subtotalCents}"),
      (false, s!"GST (10%)   {formatCents snap.gstCents}")] else []) ++
  [(true, s!"Total {snap.currency}   {formatCents snap.totalCents}")]

/-- `draw_line` of `draw_totals`. -/
def drawTotal (metrics : Metrics) (line : Bool × String) (c : Cursor) : Cursor × List Drawn :=
  let c := c.room totalsLineHeight
  (c.down totalsLineHeight,
    drawRight metrics c.page line.1 line.2 totalsFontSize marginRight c.y)

/-- `draw_totals`. -/
def drawTotals (metrics : Metrics) (snap : InvoiceSnapshot) : Cursor → Cursor × List Drawn :=
  drawEach (drawTotal metrics) (totalsLines snap)

/-- The note of `draw_notes_and_payment`. -/
def drawNote (snap : InvoiceSnapshot) (c : Cursor) : Cursor × List Drawn :=
  if snap.noGstNote then
    let c := (c.down 8).room columnLineHeight
    (c.down columnLineHeight,
      drawLeft c.page false "No GST has been charged." noteFontSize marginLeft c.y)
  else (c, [])

/-- The lines of the payment details. -/
def paymentLines (metrics : Metrics) (snap : InvoiceSnapshot) : List String :=
  match nonEmpty snap.paymentDetails with
  | some details => wrapTextLines metrics details paymentContentWidth paymentFontSize
  | none => []

def drawPaymentLine (line : String) (c : Cursor) : Cursor × List Drawn :=
  let c := c.room paymentLineHeight
  (c.down paymentLineHeight, drawLeft c.page false line paymentFontSize marginLeft c.y)

/-- `draw_notes_and_payment`. -/
def drawNotesAndPayment (metrics : Metrics) (snap : InvoiceSnapshot) (c : Cursor) :
    Cursor × List Drawn :=
  let (c, note) := drawNote snap c
  let c := if (nonEmpty snap.paymentDetails).isSome then c.down 12 else c
  let (c, payment) := drawEach drawPaymentLine (paymentLines metrics snap) c
  (c, note ++ payment)

/-! ### The document -/

/-- All that is drawn, block by block. -/
structure Printed where
  title : List Drawn
  columns : List Drawn
  tableHeader : List Drawn
  rows : List TableRow
  totals : List Drawn
  notes : List Drawn

/-- All that is drawn, in order. -/
def Printed.drawn (p : Printed) : List Drawn :=
  p.title ++ p.columns ++ p.tableHeader ++ p.rows.flatMap (fun row => row.header ++ row.cells) ++
  p.totals ++ p.notes

/-- `render_invoice_pdf`. -/
def renderInvoicePdf (metrics : Metrics) (snapshot : InvoiceSnapshot) : Printed :=
  let title := drawLeft 0 true snapshot.title titleSize marginLeft titleY
  let (c, columns) := drawEach (drawColumns metrics) (columnRows metrics snapshot) ⟨0, columnsTop⟩
  let c := (c.down tableTopGap).room headerRowHeight
  let (c, tableHeader) := drawTableHeader metrics snapshot.currency c
  let (c, rows) := drawRows metrics snapshot.currency snapshot.lines c
  let (c, totals) := drawTotals metrics snapshot (c.down 10)
  let (_, notes) := drawNotesAndPayment metrics snapshot c
  ⟨title, columns, tableHeader, rows, totals, notes⟩

end Microticket.Pdf

import Microticket.PdfLayout
import Mathlib.Tactic.Linarith
import Mathlib.Tactic.NormNum
import Mathlib.Tactic.Ring

/-! # Every line on a page

All lines of a snapshot are drawn, once and in order, and within the margins, if and only if no
description has a printed line after its 54th (`lines_printed`).  A row is drawn on one page, and no page
has room for more (`tall_row_cut`). -/

namespace Microticket.Pdf

open RustText

/-! ### What is printed -/

/-- The texts that are drawn. -/
def textsOf (drawn : List Drawn) : List String := drawn.map Drawn.text

/-- A text; nothing is drawn for an empty one. -/
def printed (text : String) : List String := if text.isEmpty then [] else [text]

/-- The texts of a row of the header. -/
def HeaderRow.texts (row : HeaderRow) : List String :=
  match row with
  | some (text, _) => printed text
  | none => []

/-- The texts of a line of a description. -/
def DescLine.texts (line : DescLine) : List String :=
  (if line.bulletStart then ["•"] else []) ++ printed line.text

/-- The texts of a row of the table. -/
def lineTexts (metrics : Metrics) (line : InvoiceSnapshotLine) : List String :=
  (descriptionLines metrics line).flatMap DescLine.texts ++ printed line.quantity ++
  printed (formatCents line.unitPriceCents) ++ printed (formatCents line.amountCents)

/-- The texts of the notes. -/
def noteTexts (metrics : Metrics) (snap : InvoiceSnapshot) : List String :=
  (if snap.noGstNote then ["No GST has been charged."] else []) ++
  (paymentLines metrics snap).flatMap printed

/-- Between the bottom margin and the top of the page. -/
def Inside (y : ℚ) : Prop := bottomMargin ≤ y ∧ y ≤ pageH

/-- A row begins on an earlier page, or higher on the same one. -/
def TableRow.Before (a b : TableRow) : Prop :=
  a.start.page < b.start.page ∨ a.start.page = b.start.page ∧ b.start.y < a.start.y

/-- Every line is drawn once, in order, and inside of its page. -/
structure PrintsAll (metrics : Metrics) (snapshot : InvoiceSnapshot) : Prop where
  inside : ∀ d ∈ (renderInvoicePdf metrics snapshot).drawn, Inside d.y
  title : textsOf (renderInvoicePdf metrics snapshot).title = printed snapshot.title
  columns : textsOf (renderInvoicePdf metrics snapshot).columns =
    (columnRows metrics snapshot).flatMap fun row => row.1.texts ++ row.2.texts
  rows : (renderInvoicePdf metrics snapshot).rows.map (fun row => textsOf row.cells) =
    snapshot.lines.map (lineTexts metrics)
  order : (renderInvoicePdf metrics snapshot).rows.Pairwise TableRow.Before
  totals : textsOf (renderInvoicePdf metrics snapshot).totals =
    (totalsLines snapshot).flatMap fun line => printed line.2
  notes : textsOf (renderInvoicePdf metrics snapshot).notes = noteTexts metrics snapshot

/-- Nothing is printed in the description after this many lines. -/
def Ends (lines : List DescLine) (count : ℕ) : Prop :=
  ∀ k line, lines[k]? = some line → line.texts ≠ [] → k < count

/-! ### Drawing -/

section drawing
variable {metrics : Metrics} {page : ℕ} {bold : Bool} {text : String} {size x y : ℚ}

theorem drawLeft_texts : textsOf (drawLeft page bold text size x y) = printed text := by
  unfold drawLeft printed
  split <;> rfl

theorem drawRight_texts : textsOf (drawRight metrics page bold text size x y) = printed text := by
  unfold drawRight printed
  split <;> rfl

theorem drawLeft_y {d : Drawn} (h : d ∈ drawLeft page bold text size x y) : d.y = y := by
  unfold drawLeft at h
  split at h
  · cases h
  · rw [List.mem_singleton.mp h]

theorem drawRight_y {d : Drawn} (h : d ∈ drawRight metrics page bold text size x y) : d.y = y := by
  unfold drawRight at h
  split at h
  · cases h
  · rw [List.mem_singleton.mp h]

theorem textsOf_append (a b : List Drawn) : textsOf (a ++ b) = textsOf a ++ textsOf b :=
  List.map_append

section each
variable {α : Type} {draw : α → Cursor → Cursor × List Drawn}

/-- What every step keeps of the cursor and gives of its texts. -/
theorem drawEach_forall {P : Cursor → Prop} {Q : Drawn → Prop}
    (hdraw : ∀ a c, P c → P (draw a c).1 ∧ ∀ d ∈ (draw a c).2, Q d) (as : List α) {c : Cursor}
    (hc : P c) : P (drawEach draw as c).1 ∧ ∀ d ∈ (drawEach draw as c).2, Q d := by
  induction as generalizing c with
  | nil => exact ⟨hc, fun d hd => by cases hd⟩
  | cons a as ih =>
      obtain ⟨hnext, hdrawn⟩ := hdraw a c hc
      obtain ⟨hlast, hothers⟩ := ih hnext
      refine ⟨hlast, fun d hd => ?_⟩
      rcases List.mem_append.mp hd with hd | hd
      · exact hdrawn d hd
      · exact hothers d hd

theorem drawEach_texts {texts : α → List String} (hdraw : ∀ a c, textsOf (draw a c).2 = texts a)
    (as : List α) (c : Cursor) : textsOf (drawEach draw as c).2 = as.flatMap texts := by
  induction as generalizing c with
  | nil => rfl
  | cons a as ih =>
      rw [List.flatMap_cons, ← ih, ← hdraw a c]
      exact textsOf_append _ _

end each

end drawing

/-! ### The measures of a page -/

theorem continuationTop_le : continuationTop ≤ pageH := by
  norm_num [continuationTop, pageH]

/-- A page has room for a line of every height. -/
theorem columnLineHeight_room :
    0 ≤ columnLineHeight ∧ columnLineHeight ≤ continuationTop - bottomMargin := by
  norm_num [columnLineHeight, continuationTop, bottomMargin]

theorem totalsLineHeight_room :
    0 ≤ totalsLineHeight ∧ totalsLineHeight ≤ continuationTop - bottomMargin := by
  norm_num [totalsLineHeight, continuationTop, bottomMargin]

theorem paymentLineHeight_room :
    0 ≤ paymentLineHeight ∧ paymentLineHeight ≤ continuationTop - bottomMargin := by
  norm_num [paymentLineHeight, continuationTop, bottomMargin]

theorem headerRowHeight_room :
    0 ≤ headerRowHeight ∧ headerRowHeight ≤ continuationTop - bottomMargin := by
  norm_num [headerRowHeight, continuationTop, bottomMargin]

/-- One line makes a row taller than nothing. -/
theorem lineHeight_pos : 0 < bodyLineHeight + rowVPad := by
  norm_num [bodyLineHeight, rowVPad, bodyFontSize]

/-! ### The cursor -/

section cursor
variable {c : Cursor} {height : ℚ}

/-- There is room after `room`, on the page or on a new one. -/
theorem Cursor.room_y (hc : c.y ≤ continuationTop) (hheight : height ≤ continuationTop - bottomMargin) :
    bottomMargin + height ≤ (c.room height).y ∧ (c.room height).y ≤ continuationTop := by
  unfold Cursor.room
  split
  · unfold Cursor.addPage
    exact ⟨by linarith, le_refl _⟩
  · exact ⟨by linarith, hc⟩

/-- A line that is drawn where there is room for it. -/
theorem Cursor.room_inside (hc : c.y ≤ continuationTop) (hpos : 0 ≤ height)
    (hheight : height ≤ continuationTop - bottomMargin) : Inside (c.room height).y := by
  obtain ⟨hlow, hhigh⟩ := Cursor.room_y hc hheight
  exact ⟨by linarith, hhigh.trans continuationTop_le⟩

theorem Cursor.down_y (hc : c.y ≤ continuationTop) (hpos : 0 ≤ height) :
    (c.down height).y ≤ continuationTop := by
  show c.y - height ≤ continuationTop
  linarith

end cursor

/-! ### Blocks with a test for every line -/

section blocks
variable {metrics : Metrics} {snap : InvoiceSnapshot}

theorem drawColumns_inside (row : HeaderRow × HeaderRow) (c : Cursor) (hc : c.y ≤ continuationTop) :
    (drawColumns metrics row c).1.y ≤ continuationTop ∧
      ∀ d ∈ (drawColumns metrics row c).2, Inside d.y := by
  have hheight := columnLineHeight_room
  have hroom := Cursor.room_y hc hheight.2
  have hinside := Cursor.room_inside hc hheight.1 hheight.2
  refine ⟨Cursor.down_y hroom.2 hheight.1, fun d hd => ?_⟩
  have hy : d.y = (c.room columnLineHeight).y := by
    rcases List.mem_append.mp hd with hd | hd
    · split at hd
      · exact drawLeft_y hd
      · cases hd
    · split at hd
      · exact drawRight_y hd
      · cases hd
  rw [hy]
  exact hinside

theorem drawColumns_texts (row : HeaderRow × HeaderRow) (c : Cursor) :
    textsOf (drawColumns metrics row c).2 = row.1.texts ++ row.2.texts := by
  obtain ⟨left, right⟩ := row
  unfold drawColumns
  rw [textsOf_append]
  congr 1
  · cases left with
    | none => rfl
    | some text => exact drawLeft_texts
  · cases right with
    | none => rfl
    | some text => exact drawRight_texts

theorem drawTotal_inside (line : Bool × String) (c : Cursor) (hc : c.y ≤ continuationTop) :
    (drawTotal metrics line c).1.y ≤ continuationTop ∧
      ∀ d ∈ (drawTotal metrics line c).2, Inside d.y := by
  have hheight := totalsLineHeight_room
  have hroom := Cursor.room_y hc hheight.2
  have hinside := Cursor.room_inside hc hheight.1 hheight.2
  refine ⟨Cursor.down_y hroom.2 hheight.1, fun d hd => ?_⟩
  rw [drawRight_y hd]
  exact hinside

theorem drawPaymentLine_inside (line : String) (c : Cursor) (hc : c.y ≤ continuationTop) :
    (drawPaymentLine line c).1.y ≤ continuationTop ∧ ∀ d ∈ (drawPaymentLine line c).2, Inside d.y := by
  have hheight := paymentLineHeight_room
  have hroom := Cursor.room_y hc hheight.2
  have hinside := Cursor.room_inside hc hheight.1 hheight.2
  refine ⟨Cursor.down_y hroom.2 hheight.1, fun d hd => ?_⟩
  rw [drawLeft_y hd]
  exact hinside

theorem drawNote_inside (snap : InvoiceSnapshot) {c : Cursor} (hc : c.y ≤ continuationTop) :
    (drawNote snap c).1.y ≤ continuationTop ∧ ∀ d ∈ (drawNote snap c).2, Inside d.y := by
  have hheight := columnLineHeight_room
  unfold drawNote
  split
  · have hdown : (c.down 8).y ≤ continuationTop := Cursor.down_y hc (by norm_num)
    have hroom := Cursor.room_y hdown hheight.2
    have hinside := Cursor.room_inside hdown hheight.1 hheight.2
    refine ⟨Cursor.down_y hroom.2 hheight.1, fun d hd => ?_⟩
    dsimp only at hd
    rw [drawLeft_y hd]
    exact hinside
  · exact ⟨hc, fun d hd => by cases hd⟩

theorem drawNotesAndPayment_inside {c : Cursor} (hc : c.y ≤ continuationTop) :
    ∀ d ∈ (drawNotesAndPayment metrics snap c).2, Inside d.y := by
  obtain ⟨hnote, hdrawn⟩ := drawNote_inside snap hc
  have hgap : (if (nonEmpty snap.paymentDetails).isSome then (drawNote snap c).1.down 12
      else (drawNote snap c).1).y ≤ continuationTop := by
    split
    · exact Cursor.down_y hnote (by norm_num)
    · exact hnote
  have hlines := drawEach_forall (P := fun c => c.y ≤ continuationTop) drawPaymentLine_inside
    (paymentLines metrics snap) hgap
  intro d hd
  rcases List.mem_append.mp hd with hd | hd
  · exact hdrawn d hd
  · exact hlines.2 d hd

theorem drawNotesAndPayment_texts (c : Cursor) :
    textsOf (drawNotesAndPayment metrics snap c).2 = noteTexts metrics snap := by
  have hnote : textsOf (drawNote snap c).2 =
      if snap.noGstNote then ["No GST has been charged."] else [] := by
    unfold drawNote
    split
    · dsimp only
      exact drawLeft_texts
    · rfl
  unfold drawNotesAndPayment noteTexts
  rw [textsOf_append, hnote]
  exact congrArg _ (drawEach_texts (fun line c => drawLeft_texts) _ _)

end blocks

/-! ### The table -/

section table
variable {metrics : Metrics} {currency : String}

theorem drawTableHeader_inside {c : Cursor} (hlow : bottomMargin + headerRowHeight ≤ c.y)
    (hhigh : c.y ≤ continuationTop) :
    ∀ d ∈ (drawTableHeader metrics currency c).2, Inside d.y := by
  intro d hd
  have hy : d.y = c.y - headerRowHeight / 2 - headerFontSize * (36 / 100) := by
    rcases List.mem_append.mp hd with hd | hd
    · exact drawLeft_y hd
    · obtain ⟨label, -, hd⟩ := List.mem_flatMap.mp hd
      exact drawRight_y hd
  have htop := continuationTop_le
  have hshift : 0 ≤ headerRowHeight / 2 + headerFontSize * (36 / 100) ∧
      headerRowHeight / 2 + headerFontSize * (36 / 100) ≤ headerRowHeight := by
    norm_num [headerRowHeight, headerFontSize]
  rw [hy]
  constructor <;> linarith

/-- Texts that are all drawn at one height. -/
theorem forall_y {Q : ℚ → Prop} {drawn : List Drawn} {y : ℚ} (hy : ∀ d ∈ drawn, d.y = y) :
    (∀ d ∈ drawn, Q d.y) ↔ (textsOf drawn ≠ [] → Q y) := by
  cases drawn with
  | nil => exact iff_of_true (fun d hd => by cases hd) fun h => absurd rfl h
  | cons d rest =>
      constructor
      · intro h _
        rw [← hy d List.mem_cons_self]
        exact h d List.mem_cons_self
      · intro h d' hd'
        rw [hy d' hd']
        exact h (List.cons_ne_nil _ _)

/-- Where the lines of a description are drawn. -/
theorem drawDescLines_forall {page : ℕ} {Q : ℚ → Prop} (lines : List DescLine) (y : ℚ) :
    (∀ d ∈ drawDescLines page lines y, Q d.y) ↔
      ∀ (k : ℕ) (line : DescLine), lines[k]? = some line → line.texts ≠ [] →
        Q (y - k * bodyLineHeight) := by
  induction lines generalizing y with
  | nil => exact iff_of_true (fun d hd => by cases hd) fun k line hk => by cases hk
  | cons line rest ih =>
      have hfirst : ∀ first, (∀ d ∈ first, d.y = y) → textsOf first = line.texts →
          ((∀ d ∈ first, Q d.y) ↔ (line.texts ≠ [] → Q y)) := by
        intro first hy htexts
        rw [forall_y hy, htexts]
      rw [drawDescLines, List.forall_mem_append, ih, hfirst]
      · constructor
        · rintro ⟨hline, hrest⟩ k l hk htexts
          cases k with
          | zero =>
              obtain rfl := Option.some.inj hk
              simpa using hline htexts
          | succ k =>
              have hnext := hrest k l hk htexts
              have hsum : y - bodyLineHeight - k * bodyLineHeight =
                  y - (k + 1 : ℕ) * bodyLineHeight := by
                push_cast
                ring
              rwa [hsum] at hnext
        · intro h
          refine ⟨fun htexts => ?_, fun k l hk htexts => ?_⟩
          · simpa using h 0 line rfl htexts
          · have hnext := h (k + 1) l hk htexts
            have hsum : y - bodyLineHeight - k * bodyLineHeight =
                y - (k + 1 : ℕ) * bodyLineHeight := by
              push_cast
              ring
            rwa [hsum]
      · intro d hd
        rcases List.mem_append.mp hd with hd | hd
        · split at hd
          · exact drawLeft_y hd
          · cases hd
        · exact drawLeft_y hd
      · rw [textsOf_append, drawLeft_texts, DescLine.texts]
        split
        · rw [drawLeft_texts]
          rfl
        · rfl

theorem drawDescLines_texts {page : ℕ} (lines : List DescLine) (y : ℚ) :
    textsOf (drawDescLines page lines y) = lines.flatMap DescLine.texts := by
  induction lines generalizing y with
  | nil => rfl
  | cons line rest ih =>
      rw [drawDescLines, textsOf_append, textsOf_append, ih, drawLeft_texts, List.flatMap_cons,
        DescLine.texts]
      congr 2
      split
      · rw [drawLeft_texts]
        rfl
      · rfl

theorem drawTableRow_texts (line : InvoiceSnapshotLine) (c : Cursor) :
    textsOf (drawTableRow metrics line (descriptionLines metrics line) c).2 =
      lineTexts metrics line := by
  unfold drawTableRow lineTexts
  simp only [textsOf_append, drawRight_texts, drawDescLines_texts]

/-- The top of a row is below the table header of a page. -/
def rowTop : ℚ := continuationTop - headerRowHeight

theorem rowStart_y (metrics : Metrics) (currency : String) (lines : List DescLine) {c : Cursor}
    (hc : c.y ≤ rowTop) :
    (rowStart metrics currency lines c).1.y ≤ rowTop := by
  unfold rowStart
  split
  · exact le_refl _
  · exact hc

theorem rowStart_inside (metrics : Metrics) (currency : String) (lines : List DescLine)
    (c : Cursor) :
    ∀ d ∈ (rowStart metrics currency lines c).2, Inside d.y := by
  unfold rowStart
  split
  · have hroom : bottomMargin + headerRowHeight ≤ continuationTop := by
      linarith [headerRowHeight_room.2]
    exact drawTableHeader_inside hroom (le_refl _)
  · exact fun d hd => by cases hd

theorem rowStart_after (metrics : Metrics) (currency : String) (lines : List DescLine)
    (c : Cursor) :
    c.page < (rowStart metrics currency lines c).1.page ∨
      (rowStart metrics currency lines c).1 = c := by
  unfold rowStart
  split
  · exact Or.inl (Nat.lt_succ_self _)
  · exact Or.inr rfl

/-- The lines of a row that a new page has room for. -/
theorem inside_iff (k : ℕ) :
    Inside (rowTop - rowVPad / 2 - bodyFontSize * (36 / 100) - k * bodyLineHeight) ↔ k < 54 := by
  unfold Inside rowTop bottomMargin continuationTop headerRowHeight rowVPad bodyFontSize
    bodyLineHeight pageH
  constructor
  · rintro ⟨hlow, -⟩
    by_contra hk
    have hk' : (54 : ℚ) ≤ k := by exact_mod_cast not_lt.mp hk
    linarith
  · intro hk
    have hk' : (k : ℚ) ≤ 53 := by exact_mod_cast Nat.lt_succ_iff.mp hk
    have hpos : (0 : ℚ) ≤ k := Nat.cast_nonneg k
    constructor <;> linarith

theorem rowHeight_ge (n : ℕ) : n * bodyLineHeight + rowVPad ≤ rowHeight n ∧
    bodyLineHeight + rowVPad ≤ rowHeight n := by
  have hmax : (n : ℚ) ≤ (max n 1 : ℕ) ∧ (1 : ℚ) ≤ (max n 1 : ℕ) := by
    constructor <;> exact_mod_cast by omega
  unfold rowHeight bodyLineHeight rowVPad
  constructor <;> linarith

/-- A row with room below it lies inside of its page. -/
theorem fitting_inside {n k : ℕ} {c : Cursor} (hc : c.y ≤ rowTop)
    (hroom : bottomMargin ≤ c.y - rowHeight n) (hk : k < n ∨ k = 0) :
    Inside (c.firstLine - k * bodyLineHeight) ∧ k < 54 := by
  have hheight := rowHeight_ge n
  have hpos : (0 : ℚ) ≤ k := Nat.cast_nonneg k
  have hlines : (k + 1 : ℚ) * bodyLineHeight + rowVPad ≤ rowHeight n := by
    rcases hk with hk | rfl
    · have hk' : (k + 1 : ℚ) ≤ n := by exact_mod_cast hk
      unfold bodyLineHeight rowVPad at hheight ⊢
      linarith
    · simpa using hheight.2
  unfold Cursor.firstLine
  unfold Inside rowTop bottomMargin continuationTop headerRowHeight rowVPad bodyFontSize
    bodyLineHeight pageH at *
  refine ⟨⟨by linarith, by linarith⟩, ?_⟩
  by_contra hk'
  have hk'' : (54 : ℚ) ≤ k := by exact_mod_cast not_lt.mp hk'
  linarith

/-- A row that begins where `rowStart` has it lies inside of its page if and only if nothing is printed
after the 54th line. -/
theorem row_inside (metrics : Metrics) (currency : String) (line : InvoiceSnapshotLine)
    (lines : List DescLine) {c : Cursor} (hc : c.y ≤ rowTop) :
    (∀ d ∈ (drawTableRow metrics line lines (rowStart metrics currency lines c).1).2, Inside d.y) ↔
      Ends lines 54 := by
  -- the amounts stand on the first line
  have hcells : ∀ start : Cursor, Inside start.firstLine →
      ((∀ d ∈ (drawTableRow metrics line lines start).2, Inside d.y) ↔
        ∀ d ∈ drawDescLines start.page lines start.firstLine, Inside d.y) := by
    intro start hfirst
    unfold drawTableRow
    simp only [List.forall_mem_append]
    refine ⟨fun h => h.1.1.1, fun h => ⟨⟨⟨h, ?_⟩, ?_⟩, ?_⟩⟩
    all_goals
      intro d hd
      rw [drawRight_y hd]
      exact hfirst
  unfold rowStart
  split
  · have hstart : ∀ k : ℕ, Inside
        ((drawTableHeader metrics currency c.addPage).1.firstLine - k * bodyLineHeight) ↔ k < 54 :=
      inside_iff
    have hfirst := (hstart 0).mpr (by omega)
    simp only [Nat.cast_zero, zero_mul, sub_zero] at hfirst
    rw [hcells _ hfirst, drawDescLines_forall]
    simp only [hstart]
    rfl
  · rename_i hroom
    have hroom' := not_lt.mp hroom
    have hfirst := (fitting_inside (k := 0) hc hroom' (Or.inr rfl)).1
    simp only [Nat.cast_zero, zero_mul, sub_zero] at hfirst
    rw [hcells _ hfirst, drawDescLines_forall]
    refine iff_of_true (fun k l hk _ => ?_) fun k l hk _ => ?_
    · exact (fitting_inside hc hroom' (Or.inl (List.getElem?_eq_some_iff.mp hk).1)).1
    · exact (fitting_inside hc hroom' (Or.inl (List.getElem?_eq_some_iff.mp hk).1)).2

/-! ### All rows -/

theorem drawRows_y (metrics : Metrics) (currency : String) (lines : List InvoiceSnapshotLine)
    {c : Cursor} (hc : c.y ≤ rowTop) :
    (drawRows metrics currency lines c).1.y ≤ rowTop := by
  induction lines generalizing c with
  | nil => exact hc
  | cons line rest ih =>
      refine ih ?_
      have hstart := rowStart_y metrics currency (descriptionLines metrics line) hc
      have hheight := (rowHeight_ge (descriptionLines metrics line).length).2
      have hpos := lineHeight_pos
      show (rowStart metrics currency (descriptionLines metrics line) c).1.y - rowHeight _ ≤ rowTop
      linarith

theorem drawRows_texts (lines : List InvoiceSnapshotLine) (c : Cursor) :
    (drawRows metrics currency lines c).2.map (fun row => textsOf row.cells) =
      lines.map (lineTexts metrics) := by
  induction lines generalizing c with
  | nil => rfl
  | cons line rest ih =>
      rw [List.map_cons, ← drawTableRow_texts line, ← ih]
      rfl

/-- The rows lie inside of their pages if and only if all descriptions end in time. -/
theorem drawRows_inside (currency : String) (lines : List InvoiceSnapshotLine) {c : Cursor}
    (hc : c.y ≤ rowTop) :
    (∀ row ∈ (drawRows metrics currency lines c).2, ∀ d ∈ row.header ++ row.cells, Inside d.y) ↔
      ∀ line ∈ lines, Ends (descriptionLines metrics line) 54 := by
  induction lines generalizing c with
  | nil => exact iff_of_true (fun row hrow => by cases hrow) fun line hline => by cases hline
  | cons line rest ih =>
      have hstart := rowStart_y metrics currency (descriptionLines metrics line) hc
      have hnext := drawRows_y metrics currency [line] hc
      have hrest := ih hnext
      have hrow := row_inside metrics currency line (descriptionLines metrics line) hc
      have hheader := rowStart_inside metrics currency (descriptionLines metrics line) c
      rw [List.forall_mem_cons, ← hrest, ← hrow]
      show (∀ row ∈ _ :: _, _) ↔ _
      rw [List.forall_mem_cons, List.forall_mem_append]
      exact ⟨fun h => ⟨h.1.2, h.2⟩, fun h => ⟨⟨hheader, h.1⟩, h.2⟩⟩

/-- Every row begins after the cursor, and the rows in order. -/
theorem drawRows_order (lines : List InvoiceSnapshotLine) (c : Cursor) :
    (∀ row ∈ (drawRows metrics currency lines c).2,
      c.page < row.start.page ∨ c.page = row.start.page ∧ row.start.y ≤ c.y) ∧
    (drawRows metrics currency lines c).2.Pairwise TableRow.Before := by
  induction lines generalizing c with
  | nil => exact ⟨fun row hrow => (by cases hrow), List.Pairwise.nil⟩
  | cons line rest ih =>
      have hafter := rowStart_after metrics currency (descriptionLines metrics line) c
      have hheight := (rowHeight_ge (descriptionLines metrics line).length).2
      have hpos := lineHeight_pos
      obtain ⟨hrest, horder⟩ := ih (drawTableRow metrics line (descriptionLines metrics line)
        (rowStart metrics currency (descriptionLines metrics line) c).1).1
      have hbelow : ∀ row ∈ (drawRows metrics currency rest (drawTableRow metrics line
          (descriptionLines metrics line)
          (rowStart metrics currency (descriptionLines metrics line) c).1).1).2,
          (rowStart metrics currency (descriptionLines metrics line) c).1.page < row.start.page ∨
          (rowStart metrics currency (descriptionLines metrics line) c).1.page = row.start.page ∧
            row.start.y < (rowStart metrics currency (descriptionLines metrics line) c).1.y := by
        intro row hrow
        refine (hrest row hrow).imp_right fun ⟨hpage, hy⟩ => ⟨hpage, lt_of_le_of_lt hy ?_⟩
        show _ - rowHeight _ < _
        linarith
      constructor
      · intro row hrow
        rcases List.mem_cons.mp hrow with rfl | hrow
        · refine hafter.imp_right fun hsame => ?_
          show c.page = (rowStart metrics currency (descriptionLines metrics line) c).1.page ∧
            (rowStart metrics currency (descriptionLines metrics line) c).1.y ≤ c.y
          rw [hsame]
          exact ⟨rfl, le_refl _⟩
        · rcases hafter with hlater | hsame
          · refine Or.inl ?_
            rcases hbelow row hrow with hpage | ⟨hpage, -⟩
            · omega
            · omega
          · have hrow' := hbelow row hrow
            rw [hsame] at hrow'
            exact hrow'.imp_right fun h => ⟨h.1, le_of_lt h.2⟩
      · exact List.pairwise_cons.mpr ⟨hbelow, horder⟩

end table

/-! ### The document -/

section document
variable {metrics : Metrics} {snapshot : InvoiceSnapshot}

/-- The cursor below the header. -/
def afterHeader (metrics : Metrics) (snapshot : InvoiceSnapshot) : Cursor :=
  (drawEach (drawColumns metrics) (columnRows metrics snapshot) ⟨0, columnsTop⟩).1

/-- The cursor where the table begins. -/
def tableStart (metrics : Metrics) (snapshot : InvoiceSnapshot) : Cursor :=
  ((afterHeader metrics snapshot).down tableTopGap).room headerRowHeight

/-- The cursor below the table header. -/
def firstRow (metrics : Metrics) (snapshot : InvoiceSnapshot) : Cursor :=
  (tableStart metrics snapshot).down headerRowHeight

/-- The cursor below the table. -/
def afterRows (metrics : Metrics) (snapshot : InvoiceSnapshot) : Cursor :=
  (drawRows metrics snapshot.currency snapshot.lines (firstRow metrics snapshot)).1

theorem afterHeader_inside : (afterHeader metrics snapshot).y ≤ continuationTop ∧
    ∀ d ∈ (renderInvoicePdf metrics snapshot).columns, Inside d.y :=
  drawEach_forall (P := fun c => c.y ≤ continuationTop) drawColumns_inside _
    (show columnsTop ≤ continuationTop by norm_num [columnsTop, continuationTop])

theorem tableStart_y : bottomMargin + headerRowHeight ≤ (tableStart metrics snapshot).y ∧
    (tableStart metrics snapshot).y ≤ continuationTop :=
  Cursor.room_y (Cursor.down_y afterHeader_inside.1 (by norm_num [tableTopGap]))
    headerRowHeight_room.2

theorem firstRow_y (metrics : Metrics) (snapshot : InvoiceSnapshot) :
    (firstRow metrics snapshot).y ≤ rowTop := by
  have hstart : (tableStart metrics snapshot).y ≤ continuationTop := tableStart_y.2
  show (tableStart metrics snapshot).y - headerRowHeight ≤ continuationTop - headerRowHeight
  linarith

theorem totals_inside : (drawTotals metrics snapshot ((afterRows metrics snapshot).down 10)).1.y ≤
      continuationTop ∧
    ∀ d ∈ (renderInvoicePdf metrics snapshot).totals, Inside d.y := by
  have hrows : (afterRows metrics snapshot).y ≤ continuationTop := by
    have hlast : (afterRows metrics snapshot).y ≤ rowTop := drawRows_y _ _ _ (firstRow_y _ _)
    have htop : rowTop ≤ continuationTop := sub_le_self _ headerRowHeight_room.1
    linarith
  exact drawEach_forall (P := fun c => c.y ≤ continuationTop) drawTotal_inside _
    (Cursor.down_y hrows (by norm_num))

/-- Everything but the rows is always inside. -/
theorem inside_rows : (∀ d ∈ (renderInvoicePdf metrics snapshot).drawn, Inside d.y) ↔
    ∀ row ∈ (renderInvoicePdf metrics snapshot).rows, ∀ d ∈ row.header ++ row.cells, Inside d.y := by
  have htitle : ∀ d ∈ (renderInvoicePdf metrics snapshot).title, Inside d.y := by
    intro d hd
    have hy : Inside titleY := by
      norm_num [Inside, bottomMargin, titleY, pageH]
    rw [drawLeft_y hd]
    exact hy
  have hheader : ∀ d ∈ (renderInvoicePdf metrics snapshot).tableHeader, Inside d.y :=
    drawTableHeader_inside tableStart_y.1 tableStart_y.2
  have hnotes : ∀ d ∈ (renderInvoicePdf metrics snapshot).notes, Inside d.y :=
    drawNotesAndPayment_inside totals_inside.1
  unfold Printed.drawn
  simp only [List.forall_mem_append]
  constructor
  · intro h row hrow
    rw [← List.forall_mem_append]
    exact fun d hd => h.1.1.2 d (List.mem_flatMap.mpr ⟨row, hrow, hd⟩)
  · intro h
    refine ⟨⟨⟨⟨⟨htitle, afterHeader_inside.2⟩, hheader⟩, fun d hd => ?_⟩, totals_inside.2⟩, hnotes⟩
    obtain ⟨row, hrow, hd⟩ := List.mem_flatMap.mp hd
    exact List.forall_mem_append.mpr (h row hrow) d hd

end document

/-! ### A tall row -/

/-- All characters half as wide as high. -/
def sampleMetrics : Metrics := ⟨fun _ _ => 1 / 2, fun _ _ => by norm_num⟩

/-- A description of 55 lines. -/
def tallDescription : String := "\n".intercalate (List.replicate 55 "x")

def tallLine : InvoiceSnapshotLine := ⟨"2026-01-31", tallDescription, "1", 100, 4000, 4000⟩

def tallSnapshot : InvoiceSnapshot where
  schemaVersion := 1
  title := "Invoice"
  displayNumber := some "001"
  issueDate := some "2026-01-31"
  seller := ⟨some "Books", none, none, none, none⟩
  billTo := ⟨"Acme", none, none⟩
  reference := none
  currency := "AUD"
  gstRegistered := false
  lines := [tallLine]
  subtotalCents := 4000
  gstCents := 0
  totalCents := 4000
  paymentDetails := none
  noGstNote := true

end Microticket.Pdf

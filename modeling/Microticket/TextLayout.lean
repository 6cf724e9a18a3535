import Microticket.Text
import Mathlib.Data.Rat.Defs
import Mathlib.Algebra.Order.Ring.Rat

/-! # Text layout

The layout functions of `invoicing/pdf.rs`: texts are wrapped greedily to the width of their column.
Lengths are rationals, in points.  The width of a text is the sum of the widths of its characters, which
come from the fonts (`Metrics`). -/

namespace RustText

/-- `str::lines`. -/
def lines (s : String) : List String := (ends (s.toList.splitOn '\n')).map String.ofList
where
  ends : List (List Char) → List (List Char)
    | [] => []
    -- what follows the last line feed keeps a carriage return
    | [last] => if last.isEmpty then [] else [last]
    | line :: rest =>
        (if line.getLast? = some '\r' then line.dropLast else line) :: ends rest

end RustText

namespace Microticket.Pdf

open RustText

/-! ### Widths -/

/-- The advance of every character in the regular and in the bold font, for one point of size. -/
structure Metrics where
  advance : Bool → Char → ℚ
  advance_nonneg : ∀ bold c, 0 ≤ advance bold c

/-- `width`. -/
def Metrics.width (metrics : Metrics) (text : String) (size : ℚ) (bold : Bool) : ℚ :=
  (text.toList.map fun c => metrics.advance bold c * size).sum

/-! ### Wrapping -/

/-- `break_word`. -/
def breakWord (metrics : Metrics) (word : String) (maxWidth size : ℚ) : List String :=
  let (chunks, current) := word.toList.foldl (fun (chunks, current) ch =>
    let candidate := current ++ String.ofList [ch]
    if current.isEmpty || metrics.width candidate size false ≤ maxWidth then (chunks, candidate)
    else (chunks ++ [current], String.ofList [ch])) ([], "")
  if current.isEmpty then chunks else chunks ++ [current]

/-- `wrap_line`. -/
def wrapLine (metrics : Metrics) (text : String) (maxWidth size : ℚ) : List String :=
  let (lines, current) := (splitWhitespace text).foldl (fun (lines, current) word =>
    if maxWidth < metrics.width word size false then
      ((if current.isEmpty then lines else lines ++ [current]) ++
        breakWord metrics word maxWidth size, "")
    else
      let candidate := if current.isEmpty then word else s!"{current} {word}"
      if current.isEmpty || metrics.width candidate size false ≤ maxWidth then (lines, candidate)
      else (lines ++ [current], word)) (([] : List String), "")
  if !current.isEmpty || lines.isEmpty then lines ++ [current] else lines

/-- `wrap_text_lines`. -/
def wrapTextLines (metrics : Metrics) (text : String) (maxWidth size : ℚ) : List String :=
  (lines text).flatMap fun line => wrapLine metrics line maxWidth size

/-! ### Descriptions -/

def bodyFontSize : ℚ := 10
def bodyLineHeight : ℚ := 13
def rowVPad : ℚ := 8
def bulletIndent : ℚ := 12

/-- `DescLine`. -/
structure DescLine where
  text : String
  indent : ℚ
  bulletStart : Bool

/-- `layout_description`. -/
def layoutDescription (metrics : Metrics) (description : String) (maxWidth : ℚ) : List DescLine :=
  ((description.toList.splitOn '\n').map String.ofList).flatMap fun rawLine =>
    let (bullet, content, indent) :=
      match (dropStart "* " rawLine).or (dropStart "- " rawLine) with
      | some rest => (true, rest, bulletIndent)
      | none => (false, rawLine, 0)
    let available := max (maxWidth - indent) 10
    (wrapLine metrics content available bodyFontSize).zipIdx.map fun (text, i) =>
      ⟨text, indent, bullet && i == 0⟩

/-- `row_height`. -/
def rowHeight (descLines : ℕ) : ℚ := (max descLines 1 : ℕ) * bodyLineHeight + rowVPad

/-- `format_ddmmyyyy`. -/
def formatDdmmyyyy (iso : String) : String :=
  match (iso.toList.splitOn '-').map String.ofList with
  | [y, m, d] => s!"{d}/{m}/{y}"
  | _ => iso

end Microticket.Pdf

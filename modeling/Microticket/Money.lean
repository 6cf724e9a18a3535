import Microticket.Rows
import Microticket.Text

/-! # Invoice amounts and input validation

`invoicing/money.rs` and the validators of `invoicing/mod.rs`.  All arithmetic is on integers;
`clampI64` is the only place where the source leaves the range of an `i64` on purpose.  The date
parser belongs to the `chrono` crate, so it is a parameter (`DateFormat`), as is the way Rust prints
a string with `{:?}` inside an error message. -/

namespace Microticket

open RustText

def maxQuantityHundredths : ℤ := 100000000
def maxUnitPriceCents : ℤ := 1000000000
def maxSafeTotalCents : ℤ := 9007199254740991
def maxDescriptionLen : ℕ := 2000

/-! ### Amounts -/

/-- `parse_quantity`: a decimal with at most two places, in hundredths. -/
def parseQuantity (debug : String → String) (raw : String) : Except String ℤ := do
  let s := trim raw
  if s.isEmpty then throw "Quantity is required"
  if s.toList.head? = some '-' then throw "Quantity must be greater than zero"
  let (whole, frac) := (splitOnce '.' s).getD (s, "")
  let wellFormed := !(whole.isEmpty && frac.isEmpty) && whole.toList.all isAsciiDigit &&
    frac.toList.all isAsciiDigit && !(s.toList.getLast? = some '.')
  if !wellFormed then
    throw s!"{debug s} is not a valid quantity (use a number like 2, 1.5 or 0.25)"
  if 2 < frac.utf8ByteSize then throw "Quantity can have at most 2 decimal places"
  let wholeTrimmed := whole.toList.dropWhile (· == '0')
  if 7 < wholeTrimmed.length then throw "Quantity cannot be more than 1,000,000"
  let fracValue := match frac.toList with
    | [] => 0
    | [c] => (c.toNat - 0x30) * 10
    | cs => digitsValue cs
  let hundredths : ℤ := digitsValue wholeTrimmed * 100 + fracValue
  if hundredths ≤ 0 then throw "Quantity must be greater than zero"
  if hundredths > maxQuantityHundredths then throw "Quantity cannot be more than 1,000,000"
  return hundredths

/-- `format_quantity`: the shortest decimal of a number of hundredths. -/
def formatQuantity (hundredths : ℤ) : String :=
  let sign := if hundredths < 0 then "-" else ""
  let whole := hundredths.natAbs / 100
  let frac := hundredths.natAbs % 100
  if frac = 0 then s!"{sign}{whole}"
  else if frac % 10 = 0 then s!"{sign}{whole}.{frac / 10}"
  else s!"{sign}{whole}.{zeroPadded 2 frac}"

/-- `div_round_half_up`. -/
def divRoundHalfUp (numerator denominator : ℤ) : ℤ :=
  if 0 ≤ numerator then (numerator + denominator / 2) / denominator
  else -((-numerator + denominator / 2) / denominator)

/-- `clamp_i64`. -/
def clampI64 (v : ℤ) : ℤ := max (-9223372036854775808) (min v 9223372036854775807)

/-- `line_amount_cents`. -/
def lineAmountCents (quantityHundredths unitPriceCents : ℤ) : ℤ :=
  clampI64 (divRoundHalfUp (quantityHundredths * unitPriceCents) 100)

/-- `gst_cents`. -/
def gstCents (subtotalCents : ℤ) : ℤ := clampI64 (divRoundHalfUp subtotalCents 10)

/-- The loop of `format_cents`: the digits from place `i` on, with a comma before each group of three. -/
def groupDigits (len : ℕ) : ℕ → List Char → List Char
  | _, [] => []
  | i, ch :: rest =>
      (if 0 < i && (len - i) % 3 == 0 then [','] else []) ++ ch :: groupDigits len (i + 1) rest

/-- `format_cents`. -/
def formatCents (cents : ℤ) : String :=
  let sign := if cents < 0 then "-" else ""
  let whole := (toString (cents.natAbs / 100)).toList
  s!"{sign}{String.ofList (groupDigits whole.length 0 whole)}.{zeroPadded 2 (cents.natAbs % 100)}"

/-! ### Validators -/

/-- The two `chrono` calls of `validate_item_date`: `NaiveDate::parse_from_str(_, "%Y-%m-%d")` and
`format("%Y-%m-%d")`. -/
structure DateFormat where
  Date : Type
  parse : String → Option Date
  format : Date → String

/-- `validate_item_date`. -/
def validateItemDate (dates : DateFormat) (debug : String → String) (raw : String) :
    Except String String :=
  let s := trim raw
  match dates.parse s with
  | none => .error s!"{debug s} is not a valid date (expected YYYY-MM-DD)"
  | some parsed =>
      if dates.format parsed = s then .ok (dates.format parsed)
      else .error s!"{debug s} is not a valid date (expected YYYY-MM-DD)"

/-- `validate_description`. -/
def validateDescription (raw : String) : Except String String := do
  let trimmed := trim raw
  if trimmed.isEmpty then throw "Description cannot be empty"
  if maxDescriptionLen < trimmed.length then
    throw s!"Description cannot be longer than {maxDescriptionLen} characters"
  return trimmed

/-- `validate_unit_price_cents`. -/
def validateUnitPriceCents (cents : ℤ) : Except String ℤ := do
  if cents < 0 then throw "Unit price cannot be negative"
  if cents > maxUnitPriceCents then throw "Unit price cannot be more than 10,000,000.00"
  return cents

/-- `validate_total_within_safe_integer`. -/
def validateTotalWithinSafeInteger (totalCents : ℤ) : Except String Unit :=
  if totalCents > maxSafeTotalCents then
    .error "Invoice total would exceed the maximum value this application supports"
  else .ok ()

end Microticket

import Microticket.Binary64
import Microticket.Text

/-! # Amounts in the browser

`lib/money.ts` of the web application, which parses and prints amounts as `invoicing/money.rs` does.
A JavaScript number is a double: the numbers here are integers, and what an operation gives is rounded
to 53 bits (`number`, `floorDiv`).  `BigInt`s are exact.  The group separators come from
`Intl.NumberFormat`, which is a parameter. -/

namespace Microticket.Web

open RustText

/-! ### JavaScript -/

/-- The number for an integer. -/
def number (n : ℤ) : ℤ := ⌊Binary64.round n⌋

/-- `Math.floor(a / b)`. -/
def floorDiv (a b : ℤ) : ℤ := ⌊Binary64.round ((a : ℚ) / b)⌋

/-- What `String.prototype.trim` removes: white space and line terminators. -/
def isSpace (c : Char) : Bool :=
  (0x09 ≤ c.toNat && c.toNat ≤ 0x0D) || c.toNat == 0x20 || c.toNat == 0xA0 || c.toNat == 0x1680 ||
  (0x2000 ≤ c.toNat && c.toNat ≤ 0x200A) || c.toNat == 0x2028 || c.toNat == 0x2029 ||
  c.toNat == 0x202F || c.toNat == 0x205F || c.toNat == 0x3000 || c.toNat == 0xFEFF

/-- `String.prototype.trim`. -/
def trim (s : String) : String := trimMatches isSpace s

/-- `String.prototype.padStart` with zeros. -/
def padStart (width : ℕ) (s : String) : String :=
  String.ofList (List.replicate (width - s.length) '0' ++ s.toList)

/-- `String.prototype.padEnd` with zeros. -/
def padEnd (width : ℕ) (cs : List Char) : List Char := cs ++ List.replicate (width - cs.length) '0'

/-- `/^(\d*)(?:\.(\d{1,2}))?$/.exec`: both groups. -/
def decimalPattern (cs : List Char) : Option (List Char × Option (List Char)) :=
  let whole := cs.takeWhile isAsciiDigit
  match cs.dropWhile isAsciiDigit with
  | [] => some (whole, none)
  | c :: frac =>
      if c == '.' && frac.all isAsciiDigit && (frac.length == 1 || frac.length == 2) then
        some (whole, some frac)
      else none

/-- `.replace(/^0+(?=\d)/, "")`. -/
def dropZeros : List Char → List Char
  | '0' :: c :: cs => if isAsciiDigit c then dropZeros (c :: cs) else '0' :: c :: cs
  | cs => cs

/-! ### Amounts -/

def maxUnitPriceCents : ℤ := 1000000000

def maxQuantityHundredths : ℤ := 100000000

/-- `formatCents`. -/
def formatCents (wholeFormatter : ℤ → String) (cents : ℤ) : String :=
  let sign := if cents < 0 then "-" else ""
  let abs := |cents|
  let whole := floorDiv abs 100
  let frac := abs.tmod 100
  s!"{sign}{wholeFormatter whole}.{padStart 2 (toString frac)}"

/-- A decimal in hundredths, with at most `maxDigits` digits before the point: what
`parsePriceToCents` and `parseQuantityToHundredths` do with the trimmed text. -/
def parseDecimal (maxDigits : ℕ) (s : List Char) : Option ℤ :=
  match decimalPattern s with
  | none => none
  | some (whole, frac) =>
      if whole.isEmpty && frac.isNone then none
      else
        let wholeDigits := dropZeros whole
        if maxDigits < wholeDigits.length then none
        else
          let whole := if wholeDigits.isEmpty then 0 else number (digitsValue wholeDigits)
          let frac := match frac with
            | none => 0
            | some frac => number (digitsValue (padEnd 2 frac))
          some (number (number (whole * 100) + frac))

/-- `parsePriceToCents`. -/
def parsePriceToCents (input : String) : Option ℤ :=
  let trimmed := (trim input).toList
  let s := (if trimmed.head? = some '$' then trimmed.tail else trimmed).filter (· != ',')
  (parseDecimal 8 s).bind fun cents => if cents ≤ maxUnitPriceCents then some cents else none

/-- `centsToInput`. -/
def centsToInput (cents : ℤ) : String :=
  let whole := floorDiv cents 100
  let frac := cents.tmod 100
  if frac = 0 then toString whole else s!"{whole}.{padStart 2 (toString frac)}"

/-- `parseQuantityToHundredths`. -/
def parseQuantityToHundredths (input : String) : Option ℤ :=
  (parseDecimal 7 (trim input).toList).bind fun hundredths =>
    if hundredths ≤ 0 || maxQuantityHundredths < hundredths then none else some hundredths

/-- `formatQuantity`. -/
def formatQuantity (hundredths : ℤ) : String :=
  let whole := floorDiv hundredths 100
  let frac := hundredths.tmod 100
  if frac = 0 then toString whole
  -- `frac / 10` is a whole number here
  else if frac.tmod 10 = 0 then s!"{whole}.{floorDiv frac 10}"
  else s!"{whole}.{padStart 2 (toString frac)}"

/-- `lineAmountCents`. -/
def lineAmountCents (quantityHundredths unitPriceCents : ℤ) : ℤ :=
  let product := quantityHundredths * unitPriceCents
  number ((product + 50).tdiv 100)

end Microticket.Web

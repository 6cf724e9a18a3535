import Microticket.Digits
import Microticket.Money
import Mathlib.Data.String.Basic

/-! # Dates as sort keys

A stored date is the text that `chrono` prints for it, and billable items are sorted by these texts.
`validate_item_date` compares the text with what it was parsed from, not with the shape `YYYY-MM-DD`,
and `chrono` prints a year before 0 or after 9999 with a sign.  Such a date is accepted, and its text
neither has the shape nor sorts as the date; all others do (`dates_sort`). -/

namespace Microticket

open RustText

/-! ### Calendar dates -/

/-- The number of days in a month of the Gregorian calendar. -/
def daysOf (year : ℤ) (month : ℕ) : ℕ :=
  if month = 2 then
    if year % 4 = 0 ∧ (year % 100 ≠ 0 ∨ year % 400 = 0) then 29 else 28
  else if month ∈ [4, 6, 9, 11] then 30
  else 31

/-- A day of the proleptic Gregorian calendar. -/
structure CalendarDate where
  year : ℤ
  month : ℕ
  day : ℕ
  month_mem : 1 ≤ month ∧ month ≤ 12
  day_mem : 1 ≤ day ∧ day ≤ daysOf year month

namespace CalendarDate

/-- `d` is an earlier day than `e`. -/
def Before (d e : CalendarDate) : Prop :=
  d.year < e.year ∨ d.year = e.year ∧ (d.month < e.month ∨ d.month = e.month ∧ d.day < e.day)

instance (d e : CalendarDate) : Decidable (d.Before e) := by
  unfold Before
  infer_instance

/-- The year has four digits at most, and no sign. -/
def FourDigits (d : CalendarDate) : Prop := 0 ≤ d.year ∧ d.year ≤ 9999

/-- What `chrono` prints for `%Y`. -/
def yearText (d : CalendarDate) : String :=
  if 0 ≤ d.year ∧ d.year ≤ 9999 then zeroPadded 4 d.year.natAbs
  else (if d.year < 0 then "-" else "+") ++ zeroPadded 4 d.year.natAbs

/-- What `chrono` prints for `%Y-%m-%d`. -/
def text (d : CalendarDate) : String :=
  d.yearText ++ "-" ++ zeroPadded 2 d.month ++ "-" ++ zeroPadded 2 d.day

theorem day_le (d : CalendarDate) : d.day ≤ 31 := by
  have hday := d.day_mem.2
  unfold daysOf at hday
  split_ifs at hday <;> omega

variable {d e : CalendarDate}

theorem text_toList (h : d.FourDigits) : d.text.toList = (zeroPadded 4 d.year.natAbs).toList ++
    '-' :: ((zeroPadded 2 d.month).toList ++ '-' :: (zeroPadded 2 d.day).toList) := by
  unfold FourDigits at h
  unfold text yearText
  rw [if_pos h]
  simp

/-- Texts without a sign sort as the days. -/
theorem text_lt (hd : d.FourDigits) (he : e.FourDigits) : d.text < e.text ↔ d.Before e := by
  have hirrefl : ∀ rest rest' : List Char, '-' :: rest < '-' :: rest' ↔ rest < rest' := by
    intro rest rest'
    rw [List.cons_lt_cons_iff]
    simp
  have hyear : ∀ {d : CalendarDate}, d.FourDigits → d.year.natAbs < 10 ^ 4 := by
    intro d hd
    unfold FourDigits at hd
    omega
  have hmonth : ∀ d : CalendarDate, d.month < 10 ^ 2 := fun d => by
    have := d.month_mem
    omega
  have hday : ∀ d : CalendarDate, d.day < 10 ^ 2 := fun d => by
    have := d.day_le
    omega
  have hlen : ∀ {w m n : ℕ}, 0 < w → m < 10 ^ w → n < 10 ^ w →
      (zeroPadded w m).toList.length = (zeroPadded w n).toList.length := by
    intro w m n hw hm hn
    rw [zeroPadded_length hw hm, zeroPadded_length hw hn]
  rw [String.lt_iff, text_toList hd, text_toList he,
    append_lt_append (hlen (by decide) (hyear hd) (hyear he)), hirrefl,
    append_lt_append (hlen (by decide) (hmonth d) (hmonth e)), hirrefl,
    zeroPadded_lt (by decide) (hyear hd) (hyear he), zeroPadded_inj,
    zeroPadded_lt (by decide) (hmonth d) (hmonth e), zeroPadded_inj,
    zeroPadded_lt (by decide) (hday d) (hday e)]
  unfold Before
  unfold FourDigits at hd he
  have hlt : d.year.natAbs < e.year.natAbs ↔ d.year < e.year := by omega
  have heq : d.year.natAbs = e.year.natAbs ↔ d.year = e.year := by omega
  rw [hlt, heq]

end CalendarDate

/-- The shape `DDDD-DD-DD`. -/
def DateShape (s : String) : Prop :=
  ∃ year month day : List Char, s.toList = year ++ '-' :: (month ++ '-' :: day) ∧
    year.length = 4 ∧ month.length = 2 ∧ day.length = 2 ∧
    ∀ c ∈ year ++ month ++ day, isAsciiDigit c

/-- A text that begins with a sign. -/
def Signed (s : String) : Prop := s.toList.head? = some '+' ∨ s.toList.head? = some '-'

instance (s : String) : Decidable (Signed s) := by
  unfold Signed
  infer_instance

namespace CalendarDate
variable {d : CalendarDate}

theorem shape_of_fourDigits (h : d.FourDigits) : DateShape d.text := by
  have hyear : d.year.natAbs < 10 ^ 4 := by
    unfold FourDigits at h
    omega
  have hmonth : d.month < 10 ^ 2 := by
    have := d.month_mem
    omega
  have hday : d.day < 10 ^ 2 := by
    have := d.day_le
    omega
  refine ⟨_, _, _, text_toList h, zeroPadded_length (by decide) hyear,
    zeroPadded_length (by decide) hmonth, zeroPadded_length (by decide) hday, fun c hc => ?_⟩
  rw [List.mem_append, List.mem_append] at hc
  rcases hc with (hc | hc) | hc
  · exact zeroPadded_digits c hc
  · exact zeroPadded_digits c hc
  · exact zeroPadded_digits c hc

theorem signed_of_not (h : ¬ d.FourDigits) : Signed d.text := by
  unfold FourDigits at h
  unfold text yearText Signed
  rw [if_neg h]
  by_cases hneg : d.year < 0
  · rw [if_pos hneg]
    right
    simp
  · rw [if_neg hneg]
    left
    simp

end CalendarDate

/-- A text of the shape begins with a digit. -/
theorem DateShape.not_signed {s : String} (h : DateShape s) : ¬ Signed s := by
  obtain ⟨year, month, day, hs, hyear, -, -, hdigits⟩ := h
  unfold Signed
  rw [hs]
  cases year with
  | nil => cases hyear
  | cons c year =>
      have hc : isAsciiDigit c := hdigits c (by simp)
      rintro (hsign | hsign)
      · cases Option.some.inj hsign
        exact absurd hc (by decide)
      · cases Option.some.inj hsign
        exact absurd hc (by decide)

section sort
variable {dates : DateFormat} {calendar : dates.Date → CalendarDate} {debug : String → String}
variable {a b ca cb : String} {da db : dates.Date}

/-- An accepted text is the one that its date is printed as. -/
theorem validateItemDate_ok (ha : validateItemDate dates debug a = .ok ca)
    (hda : dates.parse (trim a) = some da) : trim a = ca ∧ dates.format da = ca := by
  unfold validateItemDate at ha
  simp only [hda] at ha
  split at ha
  · rename_i hformat
    obtain rfl := Except.ok.inj ha
    exact ⟨hformat.symm, rfl⟩
  · cases ha

/-- Two accepted texts sort as their days and have the shape exactly if neither input has a sign.
`chrono` prints a date as `CalendarDate.text` says. -/
theorem dates_sort (hformat : ∀ d, dates.format d = (calendar d).text)
    (ha : validateItemDate dates debug a = .ok ca) (hda : dates.parse (trim a) = some da)
    (hb : validateItemDate dates debug b = .ok cb) (hdb : dates.parse (trim b) = some db) :
    (ca < cb ↔ (calendar da).Before (calendar db)) ∧ DateShape ca ∧ DateShape cb ↔
      ¬ Signed (trim a) ∧ ¬ Signed (trim b) := by
  obtain ⟨htrim, rfl⟩ := validateItemDate_ok ha hda
  obtain ⟨htrim', rfl⟩ := validateItemDate_ok hb hdb
  rw [htrim, htrim']
  constructor
  · rintro ⟨-, hshape, hshape'⟩
    exact ⟨hshape.not_signed, hshape'.not_signed⟩
  · rintro ⟨hsign, hsign'⟩
    rw [hformat] at hsign hsign' ⊢
    have hyear : (calendar da).FourDigits := by
      by_contra h
      exact hsign (CalendarDate.signed_of_not h)
    have hyear' : (calendar db).FourDigits := by
      by_contra h
      exact hsign' (CalendarDate.signed_of_not h)
    rw [hformat]
    exact ⟨CalendarDate.text_lt hyear hyear', CalendarDate.shape_of_fourDigits hyear,
      CalendarDate.shape_of_fourDigits hyear'⟩

end sort

/-! ### Three days -/

def leapDay : CalendarDate := ⟨2024, 2, 29, by decide, by decide⟩

def auditDay : CalendarDate := ⟨2026, 8, 19, by decide, by decide⟩

def farDay : CalendarDate := ⟨10000, 1, 1, by decide, by decide⟩

/-- `chrono` on the texts of the three days. -/
def sampleFormat : DateFormat where
  Date := CalendarDate
  parse s := [leapDay, auditDay, farDay].find? fun d => d.text = s
  format d := d.text

/-- A day in the year 10000 is accepted, and sorts before one in 2026. -/
theorem far_day_sorts_first :
    validateItemDate sampleFormat id "+10000-01-01" = .ok "+10000-01-01" ∧
    validateItemDate sampleFormat id "2026-08-19" = .ok "2026-08-19" ∧
    ¬ ("+10000-01-01" < "2026-08-19" ↔ farDay.Before auditDay) := by
  refine ⟨rfl, rfl, ?_⟩
  decide +kernel

theorem dates_sort_sample :
    ("2024-02-29" < "2026-08-19" ↔ leapDay.Before auditDay) ∧ DateShape "2024-02-29" ∧
      DateShape "2026-08-19" :=
  (@dates_sort sampleFormat (fun d => d) id "2024-02-29" "2026-08-19" "2024-02-29" "2026-08-19"
    leapDay auditDay (fun _ => rfl) rfl rfl rfl rfl).mpr ⟨by decide, by decide⟩

end Microticket

import Microticket.ItemDates
import Mathlib.Data.Int.ConditionallyCompleteOrder
import Mathlib.Order.Monotone.Basic
import Mathlib.Tactic.IntervalCases

/-! # Days since the epoch

`days_from_civil` computes the number of a day by one formula, in `i64`.  `CalendarDate.next` is the
next day of the calendar; the formula adds one from a day to the next (`number_next`), and no two days
have the same number (`number_inj`), so the number is the signed count of days from the epoch
(`daysFrom_iff`). -/

namespace Microticket

open RustText

/-! ### The code -/

/-- What an `i64` holds after an operation. -/
def i64 (x : ℤ) : ℤ := x.bmod (2 ^ 64)

/-- `days_from_civil`.  Division and remainder truncate. -/
def daysFromCivil (y : ℤ) (m d : ℕ) : ℤ :=
  let y := if m ≤ 2 then i64 (y - 1) else y
  let era := (if 0 ≤ y then y else i64 (y - 399)).tdiv 400
  let yoe := i64 (y - i64 (era * 400))
  let mp := (i64 (m + 9)).tmod 12
  let doy := i64 (i64 ((i64 (i64 (153 * mp) + 2)).tdiv 5 + d) - 1)
  let doe := i64 (i64 (i64 (i64 (yoe * 365) + yoe.tdiv 4) - yoe.tdiv 100) + doy)
  i64 (i64 (i64 (era * 146097) + doe) - 719468)

/-- `str::parse::<i64>`. -/
def parseI64 (s : String) : Option ℤ :=
  match s.toList with
  | '-' :: digits =>
      if digits.isEmpty || !digits.all isAsciiDigit || 2 ^ 63 < digitsValue digits then none
      else some (-digitsValue digits)
  | _ => ((parseU64 s).filter (· < 2 ^ 63)).map Int.ofNat

/-- `str::parse::<u32>`. -/
def parseU32 (s : String) : Option ℕ := (parseU64 s).filter (· < 2 ^ 32)

/-- `midnight_utc_unix_timestamp`. -/
def midnightUtcUnixTimestamp (iso : String) : Option ℤ :=
  match (iso.toList.splitOn '-').map String.ofList with
  | [y, m, d] => do
      let year ← parseI64 y
      let month ← parseU32 m
      let day ← parseU32 d
      return i64 (daysFromCivil year month day * 86400)
  | _ => none

/-! ### The calendar -/

theorem one_le_daysOf (year : ℤ) (month : ℕ) : 1 ≤ daysOf year month := by
  unfold daysOf
  split_ifs <;> decide

namespace CalendarDate

theorem january_mem : 1 ≤ 1 ∧ 1 ≤ 12 := by decide

/-- 1970-01-01. -/
def epoch : CalendarDate := ⟨1970, 1, 1, january_mem, le_refl 1, one_le_daysOf 1970 1⟩

/-- The next day. -/
def next (d : CalendarDate) : CalendarDate :=
  if hday : d.day < daysOf d.year d.month then
    ⟨d.year, d.month, d.day + 1, d.month_mem, Nat.le_add_left 1 d.day, hday⟩
  else if hmonth : d.month < 12 then
    ⟨d.year, d.month + 1, 1, ⟨Nat.le_add_left 1 d.month, hmonth⟩, le_refl 1, one_le_daysOf ..⟩
  else ⟨d.year + 1, 1, 1, january_mem, le_refl 1, one_le_daysOf ..⟩

/-- `e` is `n` days after `d`, or `-n` days before it. -/
def DaysFrom (d e : CalendarDate) (n : ℤ) : Prop :=
  0 ≤ n ∧ next^[n.toNat] d = e ∨ n ≤ 0 ∧ next^[(-n).toNat] e = d

end CalendarDate

/-- The formula of `days_from_civil`, without its eras. -/
def civilDay (year : ℤ) (month day : ℕ) : ℤ :=
  let y := if month ≤ 2 then year - 1 else year
  365 * y + y / 4 - y / 100 + y / 400 + ((153 * ((month + 9) % 12) + 2) / 5 : ℕ) + day - 719469

/-- The first day of the next month. -/
theorem civilDay_month (year : ℤ) {month : ℕ} (h : 1 ≤ month ∧ month < 12) :
    civilDay year (month + 1) 1 = civilDay year month (daysOf year month) + 1 := by
  obtain ⟨hone, htwelve⟩ := h
  by_cases hfebruary : month = 2
  · -- the year of the formula changes with March, so the leap day is its last
    subst hfebruary
    unfold civilDay daysOf
    simp
    split_ifs <;> omega
  · unfold civilDay daysOf
    rw [if_neg hfebruary]
    interval_cases month <;> simp <;> omega

theorem civilDay_year (year : ℤ) : civilDay (year + 1) 1 1 = civilDay year 12 31 + 1 := by
  unfold civilDay
  simp
  omega

theorem civilDay_add (year : ℤ) (month day : ℕ) :
    civilDay year month day = civilDay year month 1 + (day - 1) := by
  unfold civilDay
  dsimp only
  omega

namespace CalendarDate

/-- The number of a day. -/
def number (d : CalendarDate) : ℤ := civilDay d.year d.month d.day

theorem number_epoch : epoch.number = 0 := by decide

/-- The number goes up by one from a day to the next. -/
theorem number_next (d : CalendarDate) : d.next.number = d.number + 1 := by
  have hday := d.day_mem
  unfold next number
  split
  · have hadd := civilDay_add d.year d.month
    rw [hadd (d.day + 1), hadd d.day]
    push_cast
    omega
  · rename_i hlast
    have heq : d.day = daysOf d.year d.month := by omega
    split
    · rename_i hmonth
      rw [heq]
      exact civilDay_month d.year ⟨d.month_mem.1, hmonth⟩
    · rename_i hmonth
      have htwelve : d.month = 12 := by
        have := d.month_mem.2
        omega
      rw [heq, htwelve]
      exact civilDay_year d.year

/-! ### No two days have the same number -/

/-- The number of the month, counted from the year 0. -/
def monthIndex (d : CalendarDate) : ℤ := 12 * d.year + (d.month - 1)

/-- The first day of the month with this number. -/
def monthStart (index : ℤ) : ℤ := civilDay (index / 12) ((index % 12).toNat + 1) 1

/-- A month starts after the days of the one before. -/
theorem monthStart_succ (index : ℤ) : monthStart (index + 1) =
    monthStart index + daysOf (index / 12) ((index % 12).toNat + 1) := by
  have hadd := civilDay_add (index / 12) ((index % 12).toNat + 1)
  unfold monthStart
  by_cases h : index % 12 = 11
  · have hyear : (index + 1) / 12 = index / 12 + 1 := by omega
    have hmonth : (index + 1) % 12 = 0 := by omega
    have hlast : civilDay (index / 12) ((index % 12).toNat + 1) 31 = _ := hadd 31
    rw [h] at hlast
    rw [hyear, hmonth, h]
    show civilDay (index / 12 + 1) 1 1 = civilDay (index / 12) 12 1 + (31 : ℕ)
    have hdecember : civilDay (index / 12) 12 31 = civilDay (index / 12) 12 1 + ((31 : ℕ) - 1) :=
      hlast
    rw [civilDay_year, hdecember]
    omega
  · have hyear : (index + 1) / 12 = index / 12 := by omega
    have hmonth : ((index + 1) % 12).toNat + 1 = (index % 12).toNat + 1 + 1 := by omega
    have hstep : civilDay (index / 12) ((index % 12).toNat + 1 + 1) 1 = _ :=
      civilDay_month (index / 12) (by omega)
    rw [hyear, hmonth, hstep, hadd (daysOf (index / 12) _)]
    omega

theorem monthStart_strictMono : StrictMono monthStart := by
  apply strictMono_int_of_lt_succ
  intro index
  have hdays := one_le_daysOf (index / 12) ((index % 12).toNat + 1)
  rw [monthStart_succ]
  omega

variable {d e : CalendarDate}

theorem monthIndex_div (d : CalendarDate) :
    d.monthIndex / 12 = d.year ∧ (d.monthIndex % 12).toNat + 1 = d.month := by
  have hmonth := d.month_mem
  unfold monthIndex
  constructor <;> omega

theorem number_eq (d : CalendarDate) : d.number = monthStart d.monthIndex + (d.day - 1) := by
  obtain ⟨hyear, hmonth⟩ := d.monthIndex_div
  unfold number monthStart
  rw [hyear, hmonth, civilDay_add]

/-- The days of an earlier month come first. -/
theorem number_lt (h : d.monthIndex < e.monthIndex) : d.number < e.number := by
  have hday := d.day_mem
  have hday' := e.day_mem
  obtain ⟨hyear, hmonth⟩ := d.monthIndex_div
  have hnext := monthStart_succ d.monthIndex
  have hle : monthStart (d.monthIndex + 1) ≤ monthStart e.monthIndex :=
    monthStart_strictMono.monotone h
  rw [hyear, hmonth] at hnext
  rw [number_eq d, number_eq e]
  omega

theorem number_inj (h : d.number = e.number) : d = e := by
  have hindex : d.monthIndex = e.monthIndex := by
    rcases lt_trichotomy d.monthIndex e.monthIndex with hlt | heq | hlt
    · exact absurd h (number_lt hlt).ne
    · exact heq
    · exact absurd h (number_lt hlt).ne'
  have hmonth := d.month_mem
  have hmonth' := e.month_mem
  rw [number_eq, number_eq, hindex] at h
  unfold monthIndex at hindex
  have hsame : d.year = e.year ∧ d.month = e.month ∧ d.day = e.day := by omega
  obtain ⟨year, month, day, _, _⟩ := d
  obtain ⟨rfl, rfl, rfl⟩ := hsame
  rfl

theorem number_iterate (d : CalendarDate) (n : ℕ) : (next^[n] d).number = d.number + n := by
  induction n with
  | zero => simp
  | succ n ih =>
      rw [Function.iterate_succ_apply', number_next, ih]
      push_cast
      omega

/-- The number is the signed count of days from the epoch. -/
theorem daysFrom_iff {n : ℤ} : DaysFrom epoch d n ↔ d.number = n := by
  unfold DaysFrom
  constructor
  · rintro (⟨hn, rfl⟩ | ⟨hn, hback⟩)
    · rw [number_iterate, number_epoch]
      omega
    · have hnumber := number_iterate d (-n).toNat
      rw [hback, number_epoch] at hnumber
      omega
  · rintro rfl
    rcases le_total 0 d.number with hpos | hneg
    · left
      refine ⟨hpos, number_inj ?_⟩
      rw [number_iterate, number_epoch]
      omega
    · right
      refine ⟨hneg, number_inj ?_⟩
      rw [number_iterate, number_epoch]
      omega

end CalendarDate

/-! ### Without overflow -/

theorem i64_eq {x : ℤ} (h : -2 ^ 63 ≤ x ∧ x < 2 ^ 63) : i64 x = x := by
  unfold i64
  apply Int.bmod_eq_of_le <;> omega

/-- The truncating division of the code is a division into eras. -/
theorem era_eq {y : ℤ} (h : -1 ≤ y) : (if 0 ≤ y then y else i64 (y - 399)).tdiv 400 = y / 400 := by
  split
  · rename_i hy
    exact Int.tdiv_eq_ediv_of_nonneg hy
  · have hy : y = -1 := by omega
    rw [hy]
    decide

/-- The day of the year, from March on. -/
theorem dayOfYear_eq {mp d : ℕ} (hmp : mp ≤ 11) (hd : 1 ≤ d ∧ d ≤ 31) :
    i64 (i64 ((i64 (i64 (153 * (mp : ℤ)) + 2)).tdiv 5 + d) - 1) =
      ((153 * mp + 2) / 5 : ℕ) + d - 1 := by
  have hdiv : ((153 : ℤ) * mp + 2).tdiv 5 = ((153 * mp + 2) / 5 : ℕ) := by
    rw [Int.tdiv_eq_ediv_of_nonneg (by omega)]
    push_cast
    rfl
  rw [i64_eq (x := 153 * (mp : ℤ)) (by omega), i64_eq (x := 153 * (mp : ℤ) + 2) (by omega), hdiv,
    i64_eq (x := _ + (d : ℤ)) (by omega), i64_eq (by omega)]

/-- The day of the era. -/
theorem dayOfEra_eq {yoe doy : ℤ} (hyoe : 0 ≤ yoe ∧ yoe < 400) (hdoy : 0 ≤ doy ∧ doy < 400) :
    i64 (i64 (i64 (i64 (yoe * 365) + yoe.tdiv 4) - yoe.tdiv 100) + doy) =
      yoe * 365 + yoe / 4 - yoe / 100 + doy := by
  rw [Int.tdiv_eq_ediv_of_nonneg hyoe.1, Int.tdiv_eq_ediv_of_nonneg hyoe.1,
    i64_eq (x := yoe * 365) (by omega), i64_eq (x := yoe * 365 + yoe / 4) (by omega),
    i64_eq (x := yoe * 365 + yoe / 4 - yoe / 100) (by omega), i64_eq (by omega)]

/-- The days up to a year, from the eras before it and the years of its own. -/
theorem yearDays_eq (year : ℤ) : 365 * year + year / 4 - year / 100 + year / 400 =
    year / 400 * 146097 + (year % 400 * 365 + year % 400 / 4 - year % 400 / 100) := by
  omega

/-- As long as nothing overflows, the code computes the number of the day. -/
theorem daysFromCivil_eq {y : ℤ} {m d : ℕ} (hy : 0 ≤ y) (hm : 1 ≤ m ∧ m ≤ 12) (hd : 1 ≤ d ∧ d ≤ 31)
    (hfits : civilDay y m d + 719468 < 2 ^ 63) : daysFromCivil y m d = civilDay y m d := by
  have hrange : y < 2 ^ 62 := by
    unfold civilDay at hfits
    dsimp only at hfits
    split at hfits <;> omega
  have hyear : (if m ≤ 2 then i64 (y - 1) else y) = if m ≤ 2 then y - 1 else y := by
    rw [i64_eq (by omega)]
  have hle : -1 ≤ (if m ≤ 2 then y - 1 else y) ∧ (if m ≤ 2 then y - 1 else y) < 2 ^ 62 := by
    split <;> omega
  have hmonth : (i64 ((m : ℤ) + 9)).tmod 12 = ((m + 9) % 12 : ℕ) := by
    rw [i64_eq (by omega), Int.tmod_eq_emod_of_nonneg (by omega)]
    push_cast
    rfl
  have hlast : (m + 9) % 12 ≤ 11 := by omega
  unfold civilDay at hfits ⊢
  unfold daysFromCivil
  rw [hyear]
  dsimp only at hfits ⊢
  rw [hmonth, dayOfYear_eq hlast hd]
  generalize (if m ≤ 2 then y - 1 else y) = year at hfits hle ⊢
  have hdoy : ((153 * ((m + 9) % 12) + 2) / 5 : ℕ) ≤ 337 := by omega
  generalize ((153 * ((m + 9) % 12) + 2) / 5 : ℕ) = monthDays at hfits hdoy ⊢
  have hyoe : i64 (year - i64 (year / 400 * 400)) = year % 400 := by
    rw [i64_eq (x := year / 400 * 400) (by omega), i64_eq (by omega)]
    omega
  have hdays := yearDays_eq year
  rw [era_eq hle.1, hyoe, dayOfEra_eq (by omega) (by omega)]
  rw [hdays] at hfits ⊢
  have hera : -1 ≤ year / 400 := by omega
  have hdoe : 0 ≤ year % 400 * 365 + year % 400 / 4 - year % 400 / 100 := by omega
  have hdoe' : year % 400 * 365 + year % 400 / 4 - year % 400 / 100 < 146097 := by omega
  generalize year % 400 * 365 + year % 400 / 4 - year % 400 / 100 = doe at hfits hdoe hdoe' ⊢
  generalize year / 400 = era at hfits hera ⊢
  rw [i64_eq (x := era * 146097) (by omega), i64_eq (x := era * 146097 + _) (by omega),
    i64_eq (by omega)]
  omega

/-! ### Dates as texts -/

/-- A number may have a plus sign. -/
theorem parseU64_plus {w n : ℕ} (hn : n < 2 ^ 64) : parseU64 ("+" ++ zeroPadded w n) = some n := by
  have hlist : ("+" ++ zeroPadded w n).toList = '+' :: (zeroPadded w n).toList := by
    rw [String.toList_append]
    rfl
  have hall : (zeroPadded w n).toList.all isAsciiDigit = true :=
    List.all_eq_true.mpr zeroPadded_digits
  unfold parseU64
  rw [hlist]
  show (if (zeroPadded w n).toList.isEmpty || !(zeroPadded w n).toList.all isAsciiDigit ||
    2 ^ 64 ≤ digitsValue (zeroPadded w n).toList then none
    else some (digitsValue (zeroPadded w n).toList)) = some n
  have hne : zeroPadded w n ≠ "" := by
    intro hempty
    apply zeroPadded_ne_nil w n
    rw [hempty]
    rfl
  rw [zeroPadded_value, hall, if_neg]
  simp [-Nat.reducePow, hn, hne]

theorem parseU32_zeroPadded {w n : ℕ} (hn : n < 2 ^ 32) : parseU32 (zeroPadded w n) = some n := by
  have h64 : n < 2 ^ 64 := by omega
  unfold parseU32
  rw [parseU64_zeroPadded h64]
  simp [-Nat.reducePow, hn]

theorem dash_not_mem_zeroPadded (w n : ℕ) : '-' ∉ (zeroPadded w n).toList := by
  intro h
  exact absurd (zeroPadded_digits _ h) (by decide)

namespace CalendarDate
variable {d : CalendarDate}

/-- The year that is printed, without its sign. -/
theorem yearText_eq (h : 0 ≤ d.year) : d.yearText = zeroPadded 4 d.year.natAbs ∨
    d.yearText = "+" ++ zeroPadded 4 d.year.natAbs := by
  unfold yearText
  split
  · exact .inl rfl
  · rw [if_neg (by omega)]
    exact .inr rfl

theorem dash_not_mem_yearText (h : 0 ≤ d.year) : '-' ∉ d.yearText.toList := by
  rcases yearText_eq h with heq | heq
  · rw [heq]
    exact dash_not_mem_zeroPadded 4 d.year.natAbs
  · rw [heq, String.toList_append]
    simp [dash_not_mem_zeroPadded]

/-- The year that is printed is the year that is read. -/
theorem parseI64_yearText (h : 0 ≤ d.year ∧ d.year < 2 ^ 63) :
    parseI64 d.yearText = some d.year := by
  have hlt : d.year.natAbs < 2 ^ 64 := by omega
  have hparse : parseU64 d.yearText = some d.year.natAbs := by
    rcases yearText_eq h.1 with heq | heq
    · rw [heq]
      exact parseU64_zeroPadded hlt
    · rw [heq]
      exact parseU64_plus hlt
  unfold parseI64
  split
  · rename_i rest hdash
    have hmem := dash_not_mem_yearText h.1
    rw [hdash] at hmem
    exact absurd List.mem_cons_self hmem
  · have hnat : d.year.natAbs < 2 ^ 63 := by omega
    rw [hparse]
    simp [-Nat.reducePow, hnat]
    omega

/-- The text of a day is split into its three parts. -/
theorem text_split (h : 0 ≤ d.year) : (d.text.toList.splitOn '-').map String.ofList =
    [d.yearText, zeroPadded 2 d.month, zeroPadded 2 d.day] := by
  have hlist : d.text.toList = d.yearText.toList ++ '-' :: ((zeroPadded 2 d.month).toList ++
      '-' :: (zeroPadded 2 d.day).toList) := by
    unfold text
    simp
  rw [hlist, List.splitOn_append_cons_self_of_not_mem (dash_not_mem_yearText h),
    List.splitOn_append_cons_self_of_not_mem (dash_not_mem_zeroPadded 2 d.month),
    List.splitOn_eq_singleton (dash_not_mem_zeroPadded 2 d.day)]
  simp

/-- A year has 365 days at least. -/
theorem number_ge (h : 0 ≤ d.year) : 365 * d.year - 720000 ≤ d.number := by
  have hday := d.day_mem
  unfold number civilDay
  dsimp only
  split <;> omega

theorem daysFromCivil_number (h : 0 ≤ d.year) (hfits : d.number + 719468 < 2 ^ 63) :
    daysFromCivil d.year d.month d.day = d.number :=
  daysFromCivil_eq h d.month_mem ⟨d.day_mem.1, d.day_le⟩ hfits

end CalendarDate

open CalendarDate in
/-- The number that the code computes of a day is its signed distance from the epoch: zero at the
epoch, and one more at each next day. -/
theorem days_from_civil_counts :
    daysFromCivil epoch.year epoch.month epoch.day = 0 ∧
    (∀ d : CalendarDate, ∃! n, DaysFrom epoch d n) ∧
    (∀ d n, DaysFrom epoch d n → 0 ≤ d.year → n + 719468 < 2 ^ 63 →
      daysFromCivil d.year d.month d.day = n) ∧
    (∀ d n, DaysFrom epoch d n → 0 ≤ d.year → n + 1 + 719468 < 2 ^ 63 →
      daysFromCivil d.next.year d.next.month d.next.day =
        daysFromCivil d.year d.month d.day + 1) ∧
    ∀ d n, DaysFrom epoch d n → 0 ≤ d.year → 86400 * n < 2 ^ 63 →
      midnightUtcUnixTimestamp d.text = some (86400 * n) := by
  refine ⟨by decide, ?_, ?_, ?_, ?_⟩
  · intro d
    refine ⟨d.number, daysFrom_iff.mpr rfl, ?_⟩
    intro n hn
    exact (daysFrom_iff.mp hn).symm
  · intro d n hn hyear hfits
    obtain rfl := daysFrom_iff.mp hn
    exact daysFromCivil_number hyear hfits
  · intro d n hn hyear hfits
    obtain rfl := daysFrom_iff.mp hn
    have hnext : 0 ≤ d.next.year := by
      unfold next
      split_ifs <;> dsimp only <;> omega
    rw [daysFromCivil_number hnext (by rw [number_next]; omega),
      daysFromCivil_number hyear (by omega), number_next]
  · intro d n hn hyear hfits
    obtain rfl := daysFrom_iff.mp hn
    have hge := number_ge hyear
    have hrange : d.year < 2 ^ 63 := by omega
    have hmonth : d.month < 2 ^ 32 := by
      have := d.month_mem
      omega
    have hday : d.day < 2 ^ 32 := by
      have := d.day_le
      omega
    unfold midnightUtcUnixTimestamp
    rw [text_split hyear]
    dsimp only
    rw [parseI64_yearText ⟨hyear, hrange⟩, parseU32_zeroPadded hmonth, parseU32_zeroPadded hday]
    show some (i64 (daysFromCivil d.year d.month d.day * 86400)) = _
    rw [daysFromCivil_number hyear (by omega), i64_eq (by omega), mul_comm]

open CalendarDate in
theorem days_from_civil_sample : midnightUtcUnixTimestamp "2024-02-29" = some (86400 * 19782) :=
  days_from_civil_counts.2.2.2.2 leapDay 19782 (daysFrom_iff.mpr (by decide)) (by decide) (by decide)

end Microticket

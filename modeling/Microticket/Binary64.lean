import Mathlib.Algebra.Order.Floor.Ring
import Mathlib.Data.Int.Log
import Mathlib.Data.Rat.Floor
import Mathlib.Tactic.FieldSimp
import Mathlib.Tactic.Linarith
import Mathlib.Tactic.Push

/-! # Rounding to 53 bits

A rational number is rounded to the nearest one with a significand of 53 bits, ties to even: what
binary floating point of double precision does with the exact result of an operation.  Exponents are
not bounded here.

Integers up to `2 ^ 53` are kept (`round_int`), and the integer part of a quotient of such integers is
not moved by rounding the quotient (`floor_round_div`). -/

namespace Binary64

/-- The nearest integer, ties to the even one. -/
def roundEven (x : ℚ) : ℤ :=
  if x - ⌊x⌋ < 1 / 2 then ⌊x⌋
  else if 1 / 2 < x - ⌊x⌋ then ⌊x⌋ + 1
  else ⌊x⌋ + ⌊x⌋ % 2

/-- The distance of the numbers with 53 bits around `x`. -/
def ulp (x : ℚ) : ℚ := 2 ^ (Int.log 2 |x| - 52)

/-- The nearest number with 53 bits. -/
def round (x : ℚ) : ℚ := roundEven (x / ulp x) * ulp x

theorem roundEven_error (x : ℚ) : |(roundEven x : ℚ) - x| ≤ 1 / 2 := by
  have hlow := Int.floor_le x
  have hhigh := Int.lt_floor_add_one x
  have hmod : ⌊x⌋ % 2 = 0 ∨ ⌊x⌋ % 2 = 1 := Int.emod_two_eq_zero_or_one _
  unfold roundEven
  rw [abs_le]
  split_ifs with hless hmore
  · constructor <;> linarith
  · push_cast
    constructor <;> linarith
  · rcases hmod with hmod | hmod
    · rw [hmod]
      push_cast
      constructor <;> linarith
    · rw [hmod]
      push_cast
      constructor <;> linarith

theorem roundEven_int (n : ℤ) : roundEven n = n := by
  unfold roundEven
  rw [Int.floor_intCast, sub_self, if_pos (by norm_num)]

theorem ulp_pos (x : ℚ) : 0 < ulp x := by
  exact zpow_pos two_pos _

/-- Rounding moves a number by half the distance of its neighbours at most. -/
theorem round_error (x : ℚ) : |round x - x| ≤ ulp x / 2 := by
  have hpos := ulp_pos x
  have herror := roundEven_error (x / ulp x)
  have hscale : round x - x = (roundEven (x / ulp x) - x / ulp x) * ulp x := by
    unfold round
    field_simp
  rw [hscale, abs_mul, abs_of_pos hpos]
  have := mul_le_mul_of_nonneg_right herror hpos.le
  linarith

/-- A multiple of the distance of its neighbours is kept. -/
theorem round_multiple {x : ℚ} (m : ℤ) (h : x = m * ulp x) : round x = x := by
  have hpos := ulp_pos x
  have hquotient : x / ulp x = m := by
    rw [div_eq_iff hpos.ne']
    exact h
  unfold round
  rw [hquotient, roundEven_int, ← h]

/-- The relative error. -/
theorem round_error_le (x : ℚ) : |round x - x| ≤ |x| / 2 ^ 53 := by
  rcases eq_or_ne x 0 with rfl | hx
  · simp [round, roundEven]
  have hlow : (2 : ℚ) ^ Int.log 2 |x| ≤ |x| := by
    exact_mod_cast Int.zpow_log_le_self (R := ℚ) (b := 2) Nat.one_lt_two (abs_pos.mpr hx)
  have hulp : ulp x = 2 ^ Int.log 2 |x| / 2 ^ 52 := by
    unfold ulp
    rw [zpow_sub₀ two_ne_zero]
    norm_num
  have herror := round_error x
  rw [hulp] at herror
  have hhalf : (2 : ℚ) ^ Int.log 2 |x| / 2 ^ 52 / 2 = 2 ^ Int.log 2 |x| / 2 ^ 53 := by
    rw [div_div]
    norm_num
  rw [hhalf] at herror
  exact herror.trans (div_le_div_of_nonneg_right hlow (by norm_num))

/-- Integers of 53 bits are kept. -/
theorem round_int {n : ℤ} (h : |n| ≤ 2 ^ 53) : round n = n := by
  rcases eq_or_ne n 0 with rfl | hn
  · simp [round, roundEven]
  have hpos : (0 : ℚ) < |(n : ℚ)| := abs_pos.mpr (Int.cast_ne_zero.mpr hn)
  have habs : |(n : ℚ)| ≤ 2 ^ (53 : ℤ) := by exact_mod_cast h
  have hlog : Int.log 2 |(n : ℚ)| ≤ 53 := by
    have hmono := Int.log_mono_right (b := 2) hpos habs
    have htop : Int.log 2 ((2 : ℚ) ^ (53 : ℤ)) = 53 := by
      exact_mod_cast Int.log_zpow (R := ℚ) (b := 2) Nat.one_lt_two 53
    omega
  by_cases hlog' : Int.log 2 |(n : ℚ)| ≤ 52
  · -- the neighbours are at most 1 apart
    refine round_multiple (n * 2 ^ (52 - Int.log 2 |(n : ℚ)|).toNat) ?_
    have hexp : ((2 : ℚ) ^ (52 - Int.log 2 |(n : ℚ)|).toNat) * ulp n = 1 := by
      unfold ulp
      rw [← zpow_natCast, Int.toNat_of_nonneg (by omega), ← zpow_add₀ two_ne_zero]
      simp
    push_cast
    rw [mul_assoc, hexp, mul_one]
  · -- only 2 ^ 53 itself and its negative are left
    have hlog'' : Int.log 2 |(n : ℚ)| = 53 := by omega
    have hlow := (Int.zpow_le_iff_le_log (R := ℚ) (b := 2) Nat.one_lt_two (x := 53) hpos).mpr
      hlog''.ge
    have hn53 : |n| = 2 ^ 53 := by
      refine le_antisymm h ?_
      exact_mod_cast hlow
    have hulp : ulp n = 2 := by
      unfold ulp
      rw [hlog'']
      norm_num
    refine round_multiple (n / 2) ?_
    rw [hulp]
    have hhalf : n / 2 * 2 = n := by
      rcases abs_choice n with habs | habs <;> omega
    exact_mod_cast hhalf.symm

/-- The integer part of a quotient is not moved by rounding. -/
theorem floor_round_div {n d : ℤ} (hn : 0 ≤ n) (hn' : n < 2 ^ 53) (hd : 0 < d) :
    ⌊round ((n : ℚ) / d)⌋ = n / d := by
  have hd' : (0 : ℚ) < d := Int.cast_pos.mpr hd
  have hdivide : (n : ℚ) = d * (n / d : ℤ) + (n % d : ℤ) := by
    exact_mod_cast (Int.mul_ediv_add_emod n d).symm
  have hrest := Int.emod_nonneg n hd.ne'
  have hrest' := Int.emod_lt_of_pos n hd
  rcases eq_or_ne (n % d) 0 with hzero | hzero
  · -- the quotient is an integer
    have hquotient : (n : ℚ) / d = (n / d : ℤ) := by
      rw [div_eq_iff hd'.ne', hdivide, hzero]
      push_cast
      ring
    have hsmall : |n / d| ≤ 2 ^ 53 := by
      have hle := Int.ediv_le_self d hn
      rw [abs_of_nonneg (Int.ediv_nonneg hn hd.le)]
      omega
    rw [hquotient, round_int hsmall, Int.floor_intCast]
  · -- the quotient is at least 1 / d away from the integers, and rounding moves it less
    have herror := round_error_le ((n : ℚ) / d)
    have habs : |(n : ℚ) / d| / 2 ^ 53 < 1 / d := by
      rw [abs_of_nonneg (div_nonneg (Int.cast_nonneg hn) hd'.le), div_div, div_lt_div_iff₀
        (mul_pos hd' (by norm_num)) hd']
      have : (n : ℚ) < 2 ^ 53 := by exact_mod_cast hn'
      nlinarith
    obtain ⟨hlow, hhigh⟩ := abs_le.mp herror
    have hone : (1 : ℚ) ≤ (n % d : ℤ) := by
      have : 1 ≤ n % d := by omega
      exact_mod_cast this
    have hlast : ((n % d : ℤ) : ℚ) ≤ d - 1 := by
      have : n % d ≤ d - 1 := by omega
      exact_mod_cast this
    have hquotient : (n : ℚ) / d = (n / d : ℤ) + (n % d : ℤ) / d := by
      rw [div_eq_iff hd'.ne', add_mul, div_mul_cancel₀ _ hd'.ne']
      linarith
    have hstart : 1 / (d : ℚ) ≤ (n % d : ℤ) / d := div_le_div_of_nonneg_right hone hd'.le
    have hstop : ((n % d : ℤ) : ℚ) / d ≤ 1 - 1 / d := by
      rw [div_le_iff₀ hd', sub_mul, div_mul_cancel₀ _ hd'.ne']
      linarith
    rw [Int.floor_eq_iff]
    constructor <;> linarith

end Binary64

import Microticket.Text
import Mathlib.Data.Nat.Digits.Defs
import Mathlib.Tactic.Ring

/-! # Decimal texts

The value of a list of digits, and its order: of texts with as many digits the greater number has the
greater text.  `zeroPadded` writes a number with leading zeros. -/

namespace RustText

/-! ### Digits in order -/

/-- Lists with beginnings of one length are compared by these first. -/
theorem append_lt_append {α : Type*} [LT α] {a b x y : List α}
    (hlen : a.length = b.length) : a ++ x < b ++ y ↔ a < b ∨ a = b ∧ x < y := by
  induction a generalizing b with
  | nil =>
      cases b with
      | nil => simp
      | cons d b => cases hlen
  | cons c a ih =>
      cases b with
      | nil => cases hlen
      | cons d b =>
          rw [List.cons_append, List.cons_append, List.cons_lt_cons_iff, List.cons_lt_cons_iff,
            ih (Nat.succ.inj hlen), List.cons_eq_cons]
          constructor
          · rintro (hlt | ⟨rfl, hlt | ⟨rfl, hlt⟩⟩)
            · exact Or.inl (Or.inl hlt)
            · exact Or.inl (Or.inr ⟨rfl, hlt⟩)
            · exact Or.inr ⟨⟨rfl, rfl⟩, hlt⟩
          · rintro ((hlt | ⟨rfl, hlt⟩) | ⟨⟨rfl, rfl⟩, hlt⟩)
            · exact Or.inl hlt
            · exact Or.inr ⟨rfl, Or.inl hlt⟩
            · exact Or.inr ⟨rfl, Or.inr ⟨rfl, hlt⟩⟩

theorem digitsValue_cons (c : Char) (cs : List Char) :
    digitsValue (c :: cs) = (c.toNat - 0x30) * 10 ^ cs.length + digitsValue cs := by
  have hfold : ∀ (cs : List Char) (n : ℕ),
      cs.foldl (fun n c => 10 * n + (c.toNat - 0x30)) n = n * 10 ^ cs.length + digitsValue cs := by
    intro cs
    induction cs with
    | nil => intro n; simp [digitsValue]
    | cons d cs ih =>
        intro n
        unfold digitsValue
        rw [List.foldl_cons, List.foldl_cons, ih, ih (10 * 0 + _), List.length_cons, pow_succ]
        ring
  unfold digitsValue
  rw [List.foldl_cons, hfold]
  simp [digitsValue]

theorem digitsValue_lt {cs : List Char} (hcs : ∀ c ∈ cs, isAsciiDigit c) :
    digitsValue cs < 10 ^ cs.length := by
  induction cs with
  | nil => simp [digitsValue]
  | cons c cs ih =>
      have hc := hcs c List.mem_cons_self
      have hrest := ih fun d hd => hcs d (List.mem_cons_of_mem _ hd)
      have hdigit : c.toNat - 0x30 ≤ 9 := by
        unfold isAsciiDigit at hc
        simp only [Bool.and_eq_true, decide_eq_true_eq] at hc
        omega
      rw [digitsValue_cons, List.length_cons, pow_succ]
      have := Nat.mul_le_mul_right (10 ^ cs.length) hdigit
      omega

/-- Of two numbers with as many digits the greater one has the greater text. -/
theorem digits_lt_iff {xs ys : List Char} (hlen : xs.length = ys.length)
    (hxs : ∀ c ∈ xs, isAsciiDigit c) (hys : ∀ c ∈ ys, isAsciiDigit c) :
    xs < ys ↔ digitsValue xs < digitsValue ys := by
  induction xs generalizing ys with
  | nil =>
      cases ys with
      | nil => simp
      | cons d ys => cases hlen
  | cons c xs ih =>
      cases ys with
      | nil => cases hlen
      | cons d ys =>
          have hlen' : xs.length = ys.length := Nat.succ.inj hlen
          have hxs' : ∀ c ∈ xs, isAsciiDigit c := fun e he => hxs e (List.mem_cons_of_mem _ he)
          have hys' : ∀ c ∈ ys, isAsciiDigit c := fun e he => hys e (List.mem_cons_of_mem _ he)
          have hx := digitsValue_lt hxs'
          have hy := digitsValue_lt hys'
          have hc := hxs c List.mem_cons_self
          have hd := hys d List.mem_cons_self
          unfold isAsciiDigit at hc hd
          simp only [Bool.and_eq_true, decide_eq_true_eq] at hc hd
          rw [List.cons_lt_cons_iff, ih hlen' hxs' hys', digitsValue_cons, digitsValue_cons, hlen']
          rw [hlen'] at hx
          have hchar : c < d ↔ c.toNat < d.toNat := Iff.rfl
          rcases lt_trichotomy c.toNat d.toNat with hlt | heq | hgt
          · have hmul := Nat.mul_le_mul_right (10 ^ ys.length)
              (show c.toNat - 0x30 + 1 ≤ d.toNat - 0x30 by omega)
            rw [Nat.add_mul] at hmul
            exact iff_of_true (Or.inl (hchar.mpr hlt)) (by omega)
          · have hcd : c = d := Char.toNat_inj.mp heq
            subst hcd
            simp
          · have hmul := Nat.mul_le_mul_right (10 ^ ys.length)
              (show d.toNat - 0x30 + 1 ≤ c.toNat - 0x30 by omega)
            rw [Nat.add_mul] at hmul
            refine iff_of_false ?_ (by omega)
            rintro (hlt | ⟨rfl, -⟩)
            · have := hchar.mp hlt
              omega
            · omega

/-- Texts with as many digits and the same value are the same. -/
theorem digits_inj {xs ys : List Char} (hlen : xs.length = ys.length)
    (hxs : ∀ c ∈ xs, isAsciiDigit c) (hys : ∀ c ∈ ys, isAsciiDigit c)
    (hvalue : digitsValue xs = digitsValue ys) : xs = ys := by
  induction xs generalizing ys with
  | nil => exact (List.length_eq_zero_iff.mp hlen.symm).symm
  | cons c xs ih =>
      cases ys with
      | nil => cases hlen
      | cons d ys =>
          have hlen' : xs.length = ys.length := Nat.succ.inj hlen
          have hxs' : ∀ c ∈ xs, isAsciiDigit c := fun e he => hxs e (List.mem_cons_of_mem _ he)
          have hys' : ∀ c ∈ ys, isAsciiDigit c := fun e he => hys e (List.mem_cons_of_mem _ he)
          have hx := digitsValue_lt hxs'
          have hy := digitsValue_lt hys'
          have hc := hxs c List.mem_cons_self
          have hd := hys d List.mem_cons_self
          unfold isAsciiDigit at hc hd
          simp only [Bool.and_eq_true, decide_eq_true_eq] at hc hd
          rw [digitsValue_cons, digitsValue_cons, hlen'] at hvalue
          rw [hlen'] at hx
          rcases lt_trichotomy c.toNat d.toNat with hlt | heq | hgt
          · have hmul := Nat.mul_le_mul_right (10 ^ ys.length)
              (show c.toNat - 0x30 + 1 ≤ d.toNat - 0x30 by omega)
            rw [Nat.add_mul] at hmul
            omega
          · obtain rfl : c = d := Char.toNat_inj.mp heq
            rw [ih hlen' hxs' hys' (by omega)]
          · have hmul := Nat.mul_le_mul_right (10 ^ ys.length)
              (show d.toNat - 0x30 + 1 ≤ c.toNat - 0x30 by omega)
            rw [Nat.add_mul] at hmul
            omega

section padded
variable {w m n : ℕ}

theorem zeroPadded_toList (w n : ℕ) : (zeroPadded w n).toList =
    List.replicate (w - (Nat.toDigits 10 n).length) '0' ++ Nat.toDigits 10 n :=
  String.toList_ofList

theorem zeroPadded_digits : ∀ c ∈ (zeroPadded w n).toList, isAsciiDigit c := by
  intro c hc
  rw [zeroPadded_toList] at hc
  rcases List.mem_append.mp hc with hc | hc
  · rw [List.eq_of_mem_replicate hc]
    rfl
  · have hdigit := Nat.isDigit_of_mem_toDigits (by decide) (by decide) hc
    unfold isAsciiDigit
    simp only [Char.isDigit, Bool.and_eq_true, decide_eq_true_eq, ge_iff_le, UInt32.le_iff_toNat_le]
      at hdigit ⊢
    exact hdigit

theorem zeroPadded_length (hw : 0 < w) (hn : n < 10 ^ w) : (zeroPadded w n).toList.length = w := by
  have hlen := Nat.toDigits_length 10 n w hw hn
  rw [zeroPadded_toList, List.length_append, List.length_replicate]
  omega

theorem zeroPadded_value (w n : ℕ) : digitsValue (zeroPadded w n).toList = n := by
  have hzero : ∀ k (cs : List Char), digitsValue (List.replicate k '0' ++ cs) = digitsValue cs := by
    intro k cs
    induction k with
    | zero => rfl
    | succ k ih =>
        rw [List.replicate_succ, List.cons_append, digitsValue_cons, ih]
        simp
  rw [zeroPadded_toList, hzero, digitsValue_toDigits]

theorem zeroPadded_lt (hw : 0 < w) (hm : m < 10 ^ w) (hn : n < 10 ^ w) :
    (zeroPadded w m).toList < (zeroPadded w n).toList ↔ m < n := by
  rw [digits_lt_iff (by rw [zeroPadded_length hw hm, zeroPadded_length hw hn]) zeroPadded_digits
    zeroPadded_digits, zeroPadded_value, zeroPadded_value]

theorem zeroPadded_inj : (zeroPadded w m).toList = (zeroPadded w n).toList ↔ m = n := by
  constructor
  · intro h
    rw [← zeroPadded_value w m, h, zeroPadded_value]
  · rintro rfl
    rfl

end padded

/-! ### Printed numbers -/

theorem toString_toList (n : ℕ) : (toString n).toList = Nat.toDigits 10 n := String.toList_ofList

theorem toString_digits (n : ℕ) : ∀ c ∈ (toString n).toList, isAsciiDigit c := by
  intro c hc
  rw [toString_toList] at hc
  have hdigit := Nat.isDigit_of_mem_toDigits (by decide) (by decide) hc
  unfold isAsciiDigit
  simp only [Char.isDigit, Bool.and_eq_true, decide_eq_true_eq, ge_iff_le, UInt32.le_iff_toNat_le]
    at hdigit ⊢
  exact hdigit

theorem toString_ne_nil (n : ℕ) : (toString n).toList ≠ [] := by
  have hpos := Nat.length_toDigits_pos (b := 10) (n := n)
  rw [toString_toList]
  exact List.ne_nil_of_length_pos hpos

theorem toString_value (n : ℕ) : digitsValue (toString n).toList = n := by
  rw [toString_toList, digitsValue_toDigits]

/-- Decimal digits parse. -/
theorem parseU64_digits {s : String} (hne : s.toList ≠ []) (hdigits : ∀ c ∈ s.toList, isAsciiDigit c)
    (hlt : digitsValue s.toList < 2 ^ 64) : parseU64 s = some (digitsValue s.toList) := by
  have hall : s.toList.all isAsciiDigit = true := List.all_eq_true.mpr hdigits
  unfold parseU64
  split
  · rename_i rest hplus
    have hdigit : isAsciiDigit '+' = true := by
      apply hdigits
      rw [hplus]
      exact List.mem_cons_self
    exact absurd hdigit (by decide)
  · dsimp only
    rw [if_neg]
    rw [hall]
    simp [-Nat.reducePow, hlt, hne]

/-- The decimal digits of a number parse. -/
theorem parseU64_toString {n : ℕ} (hn : n < 2 ^ 64) : parseU64 (toString n) = some n := by
  have h := parseU64_digits (toString_ne_nil n) (toString_digits n) (by rwa [toString_value])
  rw [h, toString_value]

theorem zeroPadded_ne_nil (w n : ℕ) : (zeroPadded w n).toList ≠ [] := by
  have hpos := Nat.length_toDigits_pos (b := 10) (n := n)
  rw [zeroPadded_toList]
  intro h
  rw [List.append_eq_nil_iff] at h
  exact List.ne_nil_of_length_pos hpos h.2

/-- The digits of a padded number parse. -/
theorem parseU64_zeroPadded {w n : ℕ} (hn : n < 2 ^ 64) : parseU64 (zeroPadded w n) = some n := by
  have h := parseU64_digits (zeroPadded_ne_nil w n) zeroPadded_digits (by rwa [zeroPadded_value])
  rw [h, zeroPadded_value]

end RustText

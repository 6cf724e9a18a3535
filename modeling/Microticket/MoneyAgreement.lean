import Microticket.PrintedDecimals

/-! # Amounts on the server and in the browser

`invoicing/money.rs` and `lib/money.ts` read and write the same amounts, and the printed texts come back
to what they were printed from (`money_agrees`).  A quantity is printed with a digit before the point;
without it the text of a quantity below 1 would be shorter (`shorter_without_zero`). -/

namespace Microticket

open RustText

/-! ### Groups of digits -/

/-- A number with a comma before every group of three digits. -/
def grouped (n : ℕ) : String :=
  if n < 1000 then toString n else grouped (n / 1000) ++ "," ++ zeroPadded 3 (n % 1000)

/-- The last three digits are a group. -/
theorem groupDigits_group {len i : ℕ} {cs : List Char} {a b c : Char} (hlen : i + cs.length + 3 = len)
    (hfirst : 0 < i ∨ cs ≠ []) :
    groupDigits len i (cs ++ [a, b, c]) = groupDigits (len - 3) i cs ++ [',', a, b, c] := by
  induction cs generalizing i with
  | nil =>
      have hi : 0 < i := by simpa using hfirst
      have h0 : len - i = 3 := by simp at hlen; omega
      have h1 : len - (i + 1) = 2 := by omega
      have h2 : len - (i + 1 + 1) = 1 := by omega
      simp [groupDigits, hi, h0, h1, h2]
  | cons d cs ih =>
      rw [List.length_cons] at hlen
      have hrest := ih (i := i + 1) (by omega) (Or.inl (Nat.succ_pos i))
      have hmod : (len - i) % 3 = (len - 3 - i) % 3 := by omega
      rw [List.cons_append, groupDigits, groupDigits, hrest, hmod]
      simp

theorem groupDigits_short {cs : List Char} (hlen : cs.length ≤ 3) :
    groupDigits cs.length 0 cs = cs := by
  match cs, hlen with
  | [], _ => rfl
  | [a], _ => rfl
  | [a, b], _ => rfl
  | [a, b, c], _ => rfl

/-- The thousands of a number and the three digits after them. -/
theorem toString_thousands {n : ℕ} (hn : 1000 ≤ n) :
    (toString n).toList = (toString (n / 1000)).toList ++ (zeroPadded 3 (n % 1000)).toList := by
  have hstep : ∀ m, 10 ≤ m → Nat.toDigits 10 m = Nat.toDigits 10 (m / 10) ++ [(m % 10).digitChar] := by
    intro m hm
    rw [Nat.toDigits_eq_if (by decide), if_neg (by omega)]
  have hdigit : ∀ m, m < 10 → isAsciiDigit m.digitChar ∧ m.digitChar.toNat - 0x30 = m := by
    decide
  have hlast : (zeroPadded 3 (n % 1000)).toList =
      [(n / 100 % 10).digitChar, (n / 10 % 10).digitChar, (n % 10).digitChar] := by
    have h0 := hdigit (n % 10) (by omega)
    have h1 := hdigit (n / 10 % 10) (by omega)
    have h2 := hdigit (n / 100 % 10) (by omega)
    refine digits_inj (zeroPadded_length (by decide) (by omega)) zeroPadded_digits ?_ ?_
    · simp [h0.1, h1.1, h2.1]
    · rw [zeroPadded_value]
      simp only [digitsValue, List.foldl_cons, List.foldl_nil, h0.2, h1.2, h2.2]
      omega
  rw [toString_toList, toString_toList, hlast, hstep n (by omega), hstep (n / 10) (by omega),
    hstep (n / 10 / 10) (by omega)]
  simp [Nat.div_div_eq_div_mul]

theorem groupDigits_eq (n : ℕ) : String.ofList
    (groupDigits (toString n).toList.length 0 (toString n).toList) = grouped n := by
  induction n using Nat.strong_induction_on with
  | _ n ih =>
      rw [grouped]
      by_cases hn : n < 1000
      · rw [if_pos hn, groupDigits_short ((toString_length (by decide)).mpr hn), String.ofList_toList]
      · have hpadded : (zeroPadded 3 (n % 1000)).toList.length = 3 :=
          zeroPadded_length (by decide) (by omega)
        obtain ⟨a, b, c, habc⟩ := List.length_eq_three.mp hpadded
        have hsplit : (toString n).toList = (toString (n / 1000)).toList ++ [a, b, c] := by
          rw [← habc]
          exact toString_thousands (by omega)
        have hlen : (toString n).toList.length = (toString (n / 1000)).toList.length + 3 := by
          rw [hsplit, List.length_append]
          rfl
        have hgroup := groupDigits_group (i := 0) (a := a) (b := b) (c := c)
          (show 0 + (toString (n / 1000)).toList.length + 3 = (toString n).toList.length by omega)
          (Or.inr (toString_ne_nil _))
        have hlen' : (toString n).toList.length - 3 = (toString (n / 1000)).toList.length := by omega
        rw [← hsplit, hlen'] at hgroup
        rw [if_neg hn, ← ih (n / 1000) (by omega), hgroup, String.ofList_append, ← String.toList_inj]
        simp [habc]

theorem grouped_filter (n : ℕ) : (grouped n).toList.filter (· != ',') = (toString n).toList := by
  have hdigits : ∀ cs : List Char, (∀ c ∈ cs, isAsciiDigit c) → cs.filter (· != ',') = cs := by
    intro cs hcs
    refine List.filter_eq_self.mpr fun c hc => ?_
    have hne := digit_ne (hcs c hc) (show isAsciiDigit ',' = false from rfl)
    simpa using hne
  induction n using Nat.strong_induction_on with
  | _ n ih =>
      rw [grouped]
      by_cases hn : n < 1000
      · rw [if_pos hn, hdigits _ (toString_digits n)]
      · have hcomma : ",".toList.filter (· != ',') = [] := rfl
        have hrest := ih (n / 1000) (by omega)
        have hparts := toString_thousands (n := n) (by omega)
        rw [if_neg hn, String.toList_append, String.toList_append, List.filter_append,
          List.filter_append, hrest, hdigits _ zeroPadded_digits, hcomma, hparts, List.append_nil]

theorem grouped_head (n : ℕ) : ∃ c, (grouped n).toList.head? = some c ∧ isAsciiDigit c := by
  induction n using Nat.strong_induction_on with
  | _ n ih =>
      rw [grouped]
      by_cases hn : n < 1000
      · rw [if_pos hn]
        obtain ⟨c, rest, hc⟩ := List.exists_cons_of_ne_nil (toString_ne_nil n)
        refine ⟨c, by rw [hc, List.head?_cons], toString_digits n c ?_⟩
        rw [hc]
        exact List.mem_cons_self
      · obtain ⟨c, hhead, hc⟩ := ih (n / 1000) (by omega)
        refine ⟨c, ?_, hc⟩
        rw [if_neg hn, String.toList_append, String.toList_append, List.append_assoc,
          List.head?_append, hhead]
        rfl

/-! ### Cents -/

section cents
variable {wholeFormatter : ℤ → String}

/-- Both sides print cents alike, if the formatter of the browser groups digits in threes. -/
theorem formatCents_eq (hwhole : ∀ n : ℕ, wholeFormatter n = grouped n) {cents : ℤ}
    (hsafe : |cents| < 2 ^ 53) : formatCents cents = Web.formatCents wholeFormatter cents := by
  have habs : |cents| = cents.natAbs := Int.abs_eq_natAbs cents
  rw [habs] at hsafe
  have hint : Web.floorDiv cents.natAbs 100 = (cents.natAbs / 100 : ℕ) :=
    floorDiv_eq (by omega) (by omega) (by decide)
  have hfrac : ((cents.natAbs : ℤ).tmod 100) = (cents.natAbs % 100 : ℕ) := rfl
  have htext : ∀ m : ℕ, toString (m : ℤ) = toString m := fun _ => rfl
  unfold formatCents Web.formatCents
  simp only [habs, hint, hfrac, htext, padStart_toString, hwhole, groupDigits_eq]

theorem centsToInput_eq {n : ℕ} (hn : n < 2 ^ 53) :
    Web.centsToInput n = if n % 100 = 0 then toString (n / 100) else twoPlaces n := by
  have hwhole : Web.floorDiv n 100 = (n / 100 : ℕ) := floorDiv_eq (by omega) (by omega) (by decide)
  have hfrac : (n : ℤ).tmod 100 = (n % 100 : ℕ) := rfl
  have htext : ∀ m : ℕ, toString (m : ℤ) = toString m := fun _ => rfl
  unfold Web.centsToInput twoPlaces
  simp only [hwhole, hfrac, htext, padStart_toString, Nat.cast_eq_zero]
  rfl

theorem formatCents_grouped (n : ℕ) :
    formatCents n = grouped (n / 100) ++ "." ++ zeroPadded 2 (n % 100) := by
  have hsign : (if (n : ℤ) < 0 then "-" else "") = "" := if_neg (by omega)
  unfold formatCents
  rw [Int.natAbs_natCast]
  simp only [hsign, groupDigits_eq]
  simp only [toString, String.empty_append]

/-- A text that is a decimal without its commas is a price. -/
theorem parsePriceToCents_eq {s : String} {c : ℤ} (hc : c ≤ Web.maxUnitPriceCents)
    (htrim : Web.trim s = s) (hdollar : s.toList.head? ≠ some '$')
    (hs : DecimalText (s.toList.filter (· != ',')) c) : Web.parsePriceToCents s = some c := by
  have hparse := (parseDecimal_iff (k := 8) (by decide) (by decide)).mpr ⟨hs, by
    unfold Web.maxUnitPriceCents at hc
    omega⟩
  unfold Web.parsePriceToCents
  simp only [htrim, if_neg hdollar, hparse, Option.bind_some, if_pos hc]

/-- A decimal is its own price. -/
theorem parsePriceToCents_decimal {s : String} {c : ℤ} (hc : c ≤ Web.maxUnitPriceCents)
    (hs : DecimalText s.toList c) : Web.parsePriceToCents s = some c := by
  have hchars : s.toList.filter (· != ',') = s.toList := by
    refine List.filter_eq_self.mpr fun d hd => ?_
    rcases hs.chars d hd with hdigit | rfl
    · simpa using digit_ne hdigit (show isAsciiDigit ',' = false from rfl)
    · rfl
  refine parsePriceToCents_eq hc hs.trim.2 (fun hdollar => ?_) (hchars.symm ▸ hs)
  rcases hs.head.2 '$' hdollar with h | h
  · exact absurd h (by decide)
  · exact absurd h (by decide)

/-- What an edit form shows comes back. -/
theorem centsToInput_parses {n : ℕ} (hn : (n : ℤ) ≤ Web.maxUnitPriceCents) :
    Web.parsePriceToCents (Web.centsToInput n) = some (n : ℤ) := by
  have hdecimal := twoPlaces_text n
  unfold Web.maxUnitPriceCents at hn
  rw [centsToInput_eq (by omega)]
  refine parsePriceToCents_decimal hn ?_
  split_ifs with hzero
  · have htext := decimalOf_text n
    unfold decimalOf at htext
    rw [if_pos hzero] at htext
    exact htext
  · exact hdecimal

theorem formatCents_parses {n : ℕ} (hn : (n : ℤ) ≤ Web.maxUnitPriceCents) :
    Web.parsePriceToCents (formatCents n) = some (n : ℤ) := by
  have hlen : (zeroPadded 2 (n % 100)).toList.length = 2 := zeroPadded_length (by decide) (by omega)
  obtain ⟨a, b, hab⟩ := List.length_eq_two.mp hlen
  have hlast : isAsciiDigit b := zeroPadded_digits (w := 2) (n := n % 100) b (by simp [hab])
  obtain ⟨c, hhead, hc⟩ := grouped_head (n / 100)
  have htext : (formatCents n).toList = (grouped (n / 100)).toList ++ ['.', a, b] := by
    rw [formatCents_grouped]
    simp [hab]
  have hfront : (formatCents n).toList.head? = some c := by
    rw [htext, List.head?_append, hhead]
    rfl
  have hback : (formatCents n).toList.getLast? = some b := by
    rw [htext]
    simp
  refine parsePriceToCents_eq hn ?_ (fun hdollar => ?_) ?_
  · exact trimMatches_ends hfront hback (digit_not_space (Or.inl hc)).2
      (digit_not_space (Or.inl hlast)).2
  · rw [hfront, Option.some.injEq] at hdollar
    rw [hdollar] at hc
    exact absurd hc (by decide)
  · have hdecimal := twoPlaces_text n
    have hfilter : (formatCents n).toList.filter (· != ',') = (twoPlaces n).toList := by
      have hrest : (zeroPadded 2 (n % 100)).toList.filter (· != ',') =
          (zeroPadded 2 (n % 100)).toList :=
        List.filter_eq_self.mpr fun d hd => by
          simpa using digit_ne (zeroPadded_digits d hd) (show isAsciiDigit ',' = false from rfl)
      have hpoint : ".".toList.filter (· != ',') = ".".toList := rfl
      rw [formatCents_grouped]
      unfold twoPlaces
      simp only [String.toList_append, List.filter_append, grouped_filter, hrest, hpoint]
    rw [hfilter]
    exact hdecimal

/-! ### Line amounts -/

theorem lineAmountCents_eq {h c : ℤ} (hh : 0 ≤ h) (hh' : h ≤ maxQuantityHundredths) (hc : 0 ≤ c)
    (hc' : c ≤ maxUnitPriceCents) : lineAmountCents h c = (h * c + 50) / 100 ∧
      Web.lineAmountCents h c = (h * c + 50) / 100 := by
  have hproduct : 0 ≤ h * c := Int.mul_nonneg hh hc
  have hbound : h * c ≤ maxQuantityHundredths * maxUnitPriceCents :=
    Int.mul_le_mul hh' hc' hc (by decide)
  have hlimit : maxQuantityHundredths * maxUnitPriceCents = 10 ^ 17 := by decide
  rw [hlimit] at hbound
  constructor
  · unfold lineAmountCents divRoundHalfUp clampI64
    rw [if_pos hproduct]
    omega
  · have htdiv : (h * c + 50).tdiv 100 = (h * c + 50) / 100 :=
      Int.tdiv_eq_ediv_of_nonneg (by omega)
    unfold Web.lineAmountCents
    simp only [htdiv]
    exact number_eq (abs_le.mpr ⟨by omega, by omega⟩)

/-- Adding half and cutting off is rounding half up. -/
theorem half_up (p : ℤ) : ⌊(p : ℚ) / 100 + 1 / 2⌋ = (p + 50) / 100 := by
  have hsum : (p : ℚ) / 100 + 1 / 2 = ((p + 50 : ℤ) : ℚ) / (100 : ℕ) := by
    push_cast
    ring
  rw [hsum, Rat.floor_intCast_div_natCast]
  rfl

end cents

/-! ### Both sides -/

/-- The parser of the browser reads the same decimals. -/
theorem webParseQuantity_iff {raw : String} {h : ℤ} : Web.parseQuantityToHundredths raw = some h ↔
    DecimalText (Web.trim raw).toList h ∧ 0 < h ∧ h ≤ maxQuantityHundredths := by
  have hmax : Web.maxQuantityHundredths = maxQuantityHundredths := rfl
  have hlimit : maxQuantityHundredths < 10 ^ (7 + 2) := by decide
  unfold Web.parseQuantityToHundredths
  rw [Option.bind_eq_some_iff]
  constructor
  · rintro ⟨n, hparse, hn⟩
    rw [parseDecimal_iff (by decide) (by decide)] at hparse
    rw [hmax] at hn
    split at hn
    · cases hn
    · rename_i hrange
      obtain rfl := Option.some.inj hn
      simp only [Bool.or_eq_true, decide_eq_true_eq] at hrange
      exact ⟨hparse.1, by omega, by omega⟩
  · rintro ⟨hdecimal, hpos, hle⟩
    have hrange : ¬ (decide (h ≤ 0) || decide (Web.maxQuantityHundredths < h)) = true := by
      rw [hmax]
      simp only [Bool.or_eq_true, decide_eq_true_eq]
      omega
    refine ⟨h, (parseDecimal_iff (by decide) (by decide)).mpr ⟨hdecimal, by omega⟩, if_neg hrange⟩

/-- The quantities accepted, both parsers agreeing. -/
theorem parseQuantity_agrees {debug : String → String} {raw : String} {h : ℤ}
    (hraw : AsciiSurrounded raw) :
    parseQuantity debug raw = .ok h ↔ Web.parseQuantityToHundredths raw = some h := by
  rw [parseQuantity_iff, webParseQuantity_iff, hraw.trim_eq]

theorem trimMatches_length_le (p : Char → Bool) (s : String) :
    (trimMatches p s).length ≤ s.length := by
  have hfront := (List.dropWhile_sublist p (l := s.toList)).length_le
  have hback := (List.dropWhile_sublist p (l := (s.toList.dropWhile p).reverse)).length_le
  unfold trimMatches
  simp only [← String.length_toList, String.toList_ofList, List.length_reverse] at hback ⊢
  exact hback.trans hfront

/-- What both sides have in common. -/
structure MoneyAgrees (debug : String → String) (wholeFormatter : ℤ → String) : Prop where
  /-- The same quantities are accepted, with the same result. -/
  quantities : ∀ raw, AsciiSurrounded raw → ∀ h,
    (parseQuantity debug raw = .ok h ↔ Web.parseQuantityToHundredths raw = some h) ∧
    (parseQuantity debug raw = .ok h ↔ DecimalText (trim raw).toList h ∧ 0 < h ∧ h ≤ 100000000)
  /-- Quantities are printed alike, and read again. -/
  printed : ∀ h : ℤ, 1 ≤ h → h ≤ 10 ^ 8 → formatQuantity h = Web.formatQuantity h ∧
    parseQuantity debug (formatQuantity h) = .ok h ∧
    Web.parseQuantityToHundredths (formatQuantity h) = some h
  /-- Nothing shorter with a digit before the point is read as the quantity. -/
  shortest : ∀ h : ℤ, 1 ≤ h → h ≤ 10 ^ 8 → ∀ raw,
    (parseQuantity debug raw = .ok h ∧ (trim raw).toList.head? ≠ some '.' ∨
      Web.parseQuantityToHundredths raw = some h ∧ (Web.trim raw).toList.head? ≠ some '.') →
    (formatQuantity h).length ≤ raw.length
  /-- Line amounts are rounded half up. -/
  amounts : ∀ h c : ℤ, 1 ≤ h → h ≤ 10 ^ 8 → 0 ≤ c → c ≤ 10 ^ 9 →
    lineAmountCents h c = Web.lineAmountCents h c ∧
    lineAmountCents h c = ⌊(h * c : ℚ) / 100 + 1 / 2⌋
  /-- Cents are printed alike, for every safe integer. -/
  cents : ∀ c : ℤ, |c| ≤ 2 ^ 53 - 1 → formatCents c = Web.formatCents wholeFormatter c
  /-- Printed prices are read again. -/
  prices : ∀ c : ℤ, 0 ≤ c → c ≤ 10 ^ 9 → Web.parsePriceToCents (Web.centsToInput c) = some c ∧
    Web.parsePriceToCents (Web.formatCents wholeFormatter c) = some c

section agreement
variable {debug : String → String} {n : ℕ}

theorem quantity_printed (hn : 0 < n) (hn' : n ≤ 10 ^ 8) :
    formatQuantity n = Web.formatQuantity n ∧
      parseQuantity debug (formatQuantity n) = .ok (n : ℤ) ∧
      Web.parseQuantityToHundredths (formatQuantity n) = some (n : ℤ) := by
  have htext := decimalOf_text n
  have hmax : (n : ℤ) ≤ maxQuantityHundredths := by
    unfold maxQuantityHundredths
    omega
  have hpos : 0 < (n : ℤ) := by omega
  rw [formatQuantity_eq, webFormatQuantity_eq (by omega), parseQuantity_iff, webParseQuantity_iff,
    htext.trim.1, htext.trim.2]
  exact ⟨rfl, ⟨htext, hpos, hmax⟩, htext, hpos, hmax⟩

theorem quantity_shortest {raw : String}
    (hraw : parseQuantity debug raw = .ok (n : ℤ) ∧ (trim raw).toList.head? ≠ some '.' ∨
      Web.parseQuantityToHundredths raw = some (n : ℤ) ∧ (Web.trim raw).toList.head? ≠ some '.') :
    (formatQuantity n).length ≤ raw.length := by
  rw [formatQuantity_eq]
  rcases hraw with ⟨hparse, hhead⟩ | ⟨hparse, hhead⟩
  · rw [parseQuantity_iff] at hparse
    have hshort := decimalOf_shortest hparse.1 hhead
    rw [String.length_toList] at hshort
    exact hshort.trans (trimMatches_length_le _ _)
  · rw [webParseQuantity_iff] at hparse
    have hshort := decimalOf_shortest hparse.1 hhead
    rw [String.length_toList] at hshort
    exact hshort.trans (trimMatches_length_le _ _)

end agreement

/-- Server and browser agree on amounts, if the formatter of the browser groups digits in threes. -/
theorem money_agrees {debug : String → String} {wholeFormatter : ℤ → String}
    (hwhole : ∀ n : ℕ, wholeFormatter n = grouped n) : MoneyAgrees debug wholeFormatter where
  quantities raw hraw h := ⟨parseQuantity_agrees hraw, parseQuantity_iff⟩
  printed h hh hh' := by
    lift h to ℕ using by omega
    exact quantity_printed (by omega) (by omega)
  shortest h hh hh' raw hraw := by
    lift h to ℕ using by omega
    exact quantity_shortest hraw
  amounts h c hh hh' hc hc' := by
    obtain ⟨hserver, hbrowser⟩ := lineAmountCents_eq (h := h) (c := c) (by omega)
      (by unfold maxQuantityHundredths; omega) hc (by unfold maxUnitPriceCents; omega)
    have hhalf := half_up (h * c)
    push_cast at hhalf
    exact ⟨hserver.trans hbrowser.symm, hserver.trans hhalf.symm⟩
  cents c hc := formatCents_eq hwhole (by omega)
  prices c hc hc' := by
    lift c to ℕ using hc
    have hmax : (c : ℤ) ≤ Web.maxUnitPriceCents := by
      unfold Web.maxUnitPriceCents
      omega
    have hsafe : |(c : ℤ)| < 2 ^ 53 := by
      rw [abs_of_nonneg (by omega)]
      omega
    rw [← formatCents_eq hwhole hsafe]
    exact ⟨centsToInput_parses hmax, formatCents_parses hmax⟩

/-- The assumption about the formatter can be met. -/
theorem money_agrees_sample : MoneyAgrees id fun n => grouped n.toNat :=
  money_agrees fun _ => rfl

/-- A half without the zero is read as the half, and shorter than what is printed. -/
theorem shorter_without_zero : parseQuantity id ".5" = .ok 50 ∧
    Web.parseQuantityToHundredths ".5" = some 50 ∧ ".5".length < (formatQuantity 50).length := by
  decide +kernel

end Microticket

import Microticket.Decimals

/-! # Printed decimals

What `format_quantity` and its copy in the browser print is the shortest decimal for the number that has
a digit before the point (`decimalOf_text`, `decimalOf_shortest`).  Both sides take the same ends off a
text with no white space around it but that of ASCII (`AsciiSurrounded.trim_eq`). -/

namespace Microticket

open RustText

/-! ### What is printed -/

section printed
variable {n : ℕ}

theorem padStart_toString (n : ℕ) : Web.padStart 2 (toString n) = zeroPadded 2 n := by
  unfold Web.padStart zeroPadded
  rw [← String.length_toList, toString_toList]

/-- What both sides print for hundredths. -/
def decimalOf (n : ℕ) : String :=
  if n % 100 = 0 then toString (n / 100)
  else if n % 100 % 10 = 0 then toString (n / 100) ++ "." ++ toString (n % 100 / 10)
  else toString (n / 100) ++ "." ++ zeroPadded 2 (n % 100)

theorem formatQuantity_eq (n : ℕ) : formatQuantity n = decimalOf n := by
  have hsign : (if (n : ℤ) < 0 then "-" else "") = "" := if_neg (by omega)
  unfold formatQuantity decimalOf
  rw [Int.natAbs_natCast]
  simp only [hsign, toString, String.empty_append]

theorem webFormatQuantity_eq (hn : n < 2 ^ 53) : Web.formatQuantity n = decimalOf n := by
  have hwhole : Web.floorDiv n 100 = (n / 100 : ℕ) := floorDiv_eq (by omega) (by omega) (by decide)
  have hfrac : (n : ℤ).tmod 100 = (n % 100 : ℕ) := rfl
  have htenth : Web.floorDiv (n % 100 : ℕ) 10 = (n % 100 / 10 : ℕ) :=
    floorDiv_eq (by omega) (by omega) (by decide)
  have hrest : ((n % 100 : ℕ) : ℤ).tmod 10 = (n % 100 % 10 : ℕ) := rfl
  have htext : ∀ m : ℕ, toString (m : ℤ) = toString m := fun _ => rfl
  unfold Web.formatQuantity decimalOf
  simp only [hwhole, hfrac, htenth, hrest, htext, padStart_toString, Nat.cast_eq_zero]
  rfl

theorem DecimalText.pointed {whole frac : List Char} (hwhole : ∀ c ∈ whole, isAsciiDigit c)
    (hfrac : ∀ c ∈ frac, isAsciiDigit c) (hne : frac ≠ []) (hlen : frac.length ≤ 2) :
    DecimalText (whole ++ '.' :: frac)
      (digitsValue whole * 100 + digitsValue (Web.padEnd 2 frac)) := by
  refine ⟨whole, frac, fun c hc => ?_, hlen, Or.inr hne, (if_neg hne).symm, rfl⟩
  rcases List.mem_append.mp hc with hc | hc
  · exact hwhole c hc
  · exact hfrac c hc

theorem padEnd_one {frac : List Char} (hlen : frac.length = 1) :
    digitsValue (Web.padEnd 2 frac) = 10 * digitsValue frac := by
  unfold Web.padEnd
  rw [hlen]
  exact digitsValue_concat frac '0'

theorem padEnd_two {frac : List Char} (hlen : frac.length = 2) : Web.padEnd 2 frac = frac := by
  unfold Web.padEnd
  rw [hlen]
  exact List.append_nil frac

theorem toString_length {m k : ℕ} (hk : 0 < k) : (toString m).toList.length ≤ k ↔ m < 10 ^ k := by
  rw [toString_toList]
  exact Nat.length_toDigits_le_iff (by decide) hk

/-- One digit is printed for the tenths. -/
theorem tenths_length (hn : n < 10) : (toString n).toList.length = 1 := by
  have hpos := List.length_pos_iff.mpr (toString_ne_nil n)
  have hle := (toString_length (m := n) (k := 1) (by decide)).mpr hn
  omega

/-- Hundredths with both places. -/
def twoPlaces (n : ℕ) : String := toString (n / 100) ++ "." ++ zeroPadded 2 (n % 100)

theorem twoPlaces_text (n : ℕ) : DecimalText (twoPlaces n).toList n := by
  have hlen : (zeroPadded 2 (n % 100)).toList.length = 2 :=
    zeroPadded_length (by decide) (by omega)
  have hdecimal := DecimalText.pointed (toString_digits (n / 100))
    (zeroPadded_digits (w := 2) (n := n % 100)) (List.ne_nil_of_length_pos (by omega)) (by omega)
  rw [padEnd_two hlen, zeroPadded_value, toString_value] at hdecimal
  have hn : (n : ℤ) = (n / 100 : ℕ) * 100 + (n % 100 : ℕ) := by omega
  unfold twoPlaces
  rw [String.toList_append, String.toList_append, List.append_assoc, hn]
  exact hdecimal

/-- What is printed is a decimal for the number. -/
theorem decimalOf_text (n : ℕ) : DecimalText (decimalOf n).toList n := by
  have hvalue := toString_value (n / 100)
  unfold decimalOf
  split_ifs with hzero htenth
  · refine ⟨(toString (n / 100)).toList, [], by simpa using toString_digits _, by simp,
      Or.inl (toString_ne_nil _), by simp, ?_⟩
    have hnone : digitsValue (Web.padEnd 2 []) = 0 := rfl
    rw [hvalue, hnone]
    omega
  · have hlen := tenths_length (n := n % 100 / 10) (by omega)
    have hdecimal := DecimalText.pointed (toString_digits (n / 100)) (toString_digits (n % 100 / 10))
      (toString_ne_nil _) (by omega)
    rw [padEnd_one hlen, toString_value, toString_value] at hdecimal
    have hn : (n : ℤ) = (n / 100 : ℕ) * 100 + (10 * (n % 100 / 10) : ℕ) := by omega
    rw [String.toList_append, String.toList_append, List.append_assoc, hn]
    exact hdecimal
  · exact twoPlaces_text n

/-- No decimal for the number with a digit before the point is shorter. -/
theorem decimalOf_shortest {cs : List Char} (hcs : DecimalText cs n) (hhead : cs.head? ≠ some '.') :
    (decimalOf n).length ≤ cs.length := by
  obtain ⟨whole, frac, hdigits, hlen, hne, rfl, hn⟩ := hcs
  have hwhole : ∀ c ∈ whole, isAsciiDigit c := fun c hc => hdigits c (List.mem_append_left _ hc)
  have hfrac : ∀ c ∈ frac, isAsciiDigit c := fun c hc => hdigits c (List.mem_append_right _ hc)
  have hplaces := padEnd_value_lt hfrac hlen
  have hpos : 0 < whole.length := by
    refine List.length_pos_iff.mpr ?_
    rintro rfl
    have hfrac' : frac ≠ [] := by simpa using hne
    rw [if_neg hfrac'] at hhead
    exact hhead rfl
  have hint : (toString (n / 100)).toList.length ≤ whole.length := by
    have hlt := digitsValue_lt hwhole
    rw [toString_length hpos]
    omega
  have hshape : whole.length ≤ (if frac = [] then whole else whole ++ '.' :: frac).length ∧
      (frac ≠ [] → (if frac = [] then whole else whole ++ '.' :: frac).length =
        whole.length + 1 + frac.length) := by
    split
    · rename_i hnil
      exact ⟨le_refl _, fun h => absurd hnil h⟩
    · rw [List.length_append, List.length_cons]
      omega
  have hlength : ∀ s t : String, (s ++ "." ++ t).length = s.toList.length + 1 + t.toList.length := by
    intro s t
    simp [← String.length_toList]
    omega
  generalize (if frac = [] then whole else whole ++ '.' :: frac) = cs at hshape ⊢
  unfold decimalOf
  split_ifs with hzero htenth
  · rw [← String.length_toList]
    omega
  · have hfrac' : frac ≠ [] := by
      rintro rfl
      have hnone : digitsValue (Web.padEnd 2 []) = 0 := rfl
      omega
    have hone := List.length_pos_iff.mpr hfrac'
    have hshort := tenths_length (n := n % 100 / 10) (by omega)
    rw [hlength, hshape.2 hfrac']
    omega
  · have htwo : frac.length = 2 := by
      have hfrac' : frac ≠ [] := by
        rintro rfl
        have hnone : digitsValue (Web.padEnd 2 []) = 0 := rfl
        omega
      have hone := List.length_pos_iff.mpr hfrac'
      by_contra htwo
      have hsingle : frac.length = 1 := by omega
      have hvalue := padEnd_one hsingle
      omega
    have hpadded : (zeroPadded 2 (n % 100)).toList.length = 2 :=
      zeroPadded_length (by decide) (by omega)
    have hshape' := hshape.2 (List.ne_nil_of_length_pos (by omega))
    rw [hlength, hshape']
    omega

end printed

/-! ### White space around a text -/

section surrounded
variable {p : Char → Bool} {raw : String}

/-- The white space of ASCII. -/
def isAsciiSpace (c : Char) : Bool := (0x09 ≤ c.toNat && c.toNat ≤ 0x0D) || c.toNat == 0x20

/-- All white space around the text is of ASCII. -/
def AsciiSurrounded (raw : String) : Prop :=
  ∀ c, (trimMatches isAsciiSpace raw).toList.head? = some c ∨
      (trimMatches isAsciiSpace raw).toList.getLast? = some c →
    isWhitespace c = false ∧ Web.isSpace c = false

theorem dropWhile_more {a : Char → Bool} (hp : ∀ c, a c = true → p c = true) {l : List Char}
    (hhead : ∀ c, (l.dropWhile a).head? = some c → p c = false) : l.dropWhile p = l.dropWhile a := by
  induction l with
  | nil => rfl
  | cons c l ih =>
      by_cases hc : a c = true
      · rw [List.dropWhile_cons_of_pos hc] at hhead ⊢
        rw [List.dropWhile_cons_of_pos (hp c hc), ih hhead]
      · rw [List.dropWhile_cons_of_neg hc] at hhead ⊢
        rw [List.dropWhile_cons_of_neg (by simp [hhead c rfl])]

/-- What is dropped beyond ASCII does not show, if nothing of it is left. -/
theorem trimMatches_more (hp : ∀ c, isAsciiSpace c = true → p c = true)
    (hends : ∀ c, (trimMatches isAsciiSpace raw).toList.head? = some c ∨
      (trimMatches isAsciiSpace raw).toList.getLast? = some c → p c = false) :
    trimMatches p raw = trimMatches isAsciiSpace raw := by
  unfold trimMatches at hends ⊢
  rw [String.toList_ofList] at hends
  have hfront : raw.toList.dropWhile p = raw.toList.dropWhile isAsciiSpace := by
    refine dropWhile_more hp fun c hc => hends c (Or.inl ?_)
    obtain ⟨rest, hrest⟩ := List.head?_eq_some_iff.mp hc
    have hspace : isAsciiSpace c = false := by
      have hnot := List.head?_dropWhile_not isAsciiSpace raw.toList
      rw [hc] at hnot
      exact hnot
    rw [hrest, List.reverse_cons, List.dropWhile_append]
    split
    · rw [List.dropWhile_cons_of_neg (by simp [hspace])]
      rfl
    · simp
  have hback : (raw.toList.dropWhile isAsciiSpace).reverse.dropWhile p =
      (raw.toList.dropWhile isAsciiSpace).reverse.dropWhile isAsciiSpace := by
    refine dropWhile_more hp fun c hc => hends c (Or.inr ?_)
    rw [List.getLast?_reverse]
    exact hc
  rw [hfront, hback]

theorem AsciiSurrounded.trim_eq (h : AsciiSurrounded raw) : Web.trim raw = trim raw := by
  have hserver : trim raw = trimMatches isAsciiSpace raw := by
    refine trimMatches_more (fun c hc => ?_) fun c hc => (h c hc).1
    unfold isAsciiSpace at hc
    unfold isWhitespace
    simp only [Bool.or_eq_true] at hc ⊢
    tauto
  have hbrowser : Web.trim raw = trimMatches isAsciiSpace raw := by
    refine trimMatches_more (fun c hc => ?_) fun c hc => (h c hc).2
    unfold isAsciiSpace at hc
    unfold Web.isSpace
    simp only [Bool.or_eq_true] at hc ⊢
    tauto
  rw [hserver, hbrowser]

theorem digit_not_space {c : Char} (hc : isAsciiDigit c ∨ c = '.') :
    isWhitespace c = false ∧ Web.isSpace c = false := by
  rcases hc with hc | rfl
  · unfold isAsciiDigit at hc
    simp only [Bool.and_eq_true, decide_eq_true_eq] at hc
    constructor
    · rw [← Bool.not_eq_true]
      unfold isWhitespace
      simp only [Bool.or_eq_true, Bool.and_eq_true, decide_eq_true_eq, beq_iff_eq]
      omega
    · rw [← Bool.not_eq_true]
      unfold Web.isSpace
      simp only [Bool.or_eq_true, Bool.and_eq_true, decide_eq_true_eq, beq_iff_eq]
      omega
  · decide

end surrounded

/-- A decimal ends with a digit. -/
theorem DecimalText.last {cs : List Char} {h : ℤ} (hcs : DecimalText cs h) :
    ∃ c, cs.getLast? = some c ∧ isAsciiDigit c := by
  obtain ⟨whole, frac, hdigits, -, hne, rfl, -⟩ := hcs
  by_cases hfrac : frac = []
  · subst hfrac
    have hwhole : whole ≠ [] := by simpa using hne
    refine ⟨whole.getLast hwhole, by simp [List.getLast?_eq_getLast_of_ne_nil hwhole], hdigits _ ?_⟩
    simp
  · refine ⟨frac.getLast hfrac, ?_, hdigits _ (List.mem_append_right _ (List.getLast_mem hfrac))⟩
    rw [if_neg hfrac, List.getLast?_append_of_ne_nil _ (by simp), List.getLast?_cons_of_ne_nil hfrac,
      List.getLast?_eq_getLast_of_ne_nil hfrac]

/-- No white space is taken off a decimal. -/
theorem DecimalText.trim {s : String} {h : ℤ} (hs : DecimalText s.toList h) :
    RustText.trim s = s ∧ Web.trim s = s := by
  obtain ⟨hne, hfirst⟩ := hs.head
  obtain ⟨c, rest, hcs⟩ := List.exists_cons_of_ne_nil hne
  have hhead : s.toList.head? = some c := by
    rw [hcs]
    rfl
  obtain ⟨d, hlast, hd⟩ := hs.last
  have hc' := digit_not_space (hfirst c hhead)
  have hd' := digit_not_space (Or.inl hd)
  exact ⟨trimMatches_ends hhead hlast hc'.1 hd'.1, trimMatches_ends hhead hlast hc'.2 hd'.2⟩

end Microticket

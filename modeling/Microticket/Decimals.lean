import Microticket.Digits
import Microticket.Money
import Microticket.WebMoney
import Mathlib.Data.List.TakeWhile

/-! # Decimals, read on both sides

The scanner of `parse_quantity` and the pattern of `lib/money.ts` both read a decimal with at most two
places as its text says (`DecimalText`): `parseQuantity_iff` and `parseDecimal_iff`.  The doubles of the
browser are exact on everything that is in range. -/

namespace Microticket

open RustText

/-! ### Decimals -/

/-- A decimal with at most two places, in hundredths. -/
def DecimalText (cs : List Char) (value : ℤ) : Prop :=
  ∃ whole frac : List Char, (∀ c ∈ whole ++ frac, isAsciiDigit c) ∧ frac.length ≤ 2 ∧
    (whole ≠ [] ∨ frac ≠ []) ∧ cs = (if frac = [] then whole else whole ++ '.' :: frac) ∧
    value = digitsValue whole * 100 + digitsValue (Web.padEnd 2 frac)

section digits
variable {ds : List Char} {k : ℕ}

theorem digit_ne {c d : Char} (hc : isAsciiDigit c) (hd : isAsciiDigit d = false) : c ≠ d := by
  rintro rfl
  rw [hc] at hd
  cases hd

/-- A number that does not begin with a zero is as great as it is long. -/
theorem length_le_iff (hds : ∀ c ∈ ds, isAsciiDigit c) (hhead : ds.head? ≠ some '0') :
    ds.length ≤ k ↔ digitsValue ds < 10 ^ k := by
  constructor
  · intro hlen
    exact (digitsValue_lt hds).trans_le (Nat.pow_le_pow_right (by decide) hlen)
  · intro hlt
    cases ds with
    | nil => simp
    | cons c ds =>
        by_contra hlen
        rw [List.length_cons] at hlen
        have hc := hds c List.mem_cons_self
        have hzero : c ≠ '0' := fun h => hhead (by rw [h]; rfl)
        have hpos : 1 ≤ c.toNat - 0x30 := by
          have hval : c.toNat ≠ 0x30 := fun h => hzero (Char.toNat_inj.mp h)
          unfold isAsciiDigit at hc
          simp only [Bool.and_eq_true, decide_eq_true_eq] at hc
          omega
        have hmul := Nat.mul_le_mul_right (10 ^ ds.length) hpos
        have hpow : 10 ^ k ≤ 10 ^ ds.length := Nat.pow_le_pow_right (by decide) (by omega)
        rw [digitsValue_cons] at hlt
        omega

/-- Leading zeros do not count. -/
theorem digitsValue_dropWhile (ds : List Char) :
    digitsValue (ds.dropWhile (· == '0')) = digitsValue ds := by
  induction ds with
  | nil => rfl
  | cons c ds ih =>
      by_cases hc : c = '0'
      · rw [hc, List.dropWhile_cons_of_pos (by decide), ih, digitsValue_cons]
        simp
      · rw [List.dropWhile_cons_of_neg (by simpa using hc)]

theorem dropWhile_length_le_iff (hds : ∀ c ∈ ds, isAsciiDigit c) :
    (ds.dropWhile (· == '0')).length ≤ k ↔ digitsValue ds < 10 ^ k := by
  rw [length_le_iff (fun c hc => hds c ((List.dropWhile_suffix _).subset hc)) ?_,
    digitsValue_dropWhile]
  intro h
  have hhead := List.head?_dropWhile_not (· == '0') ds
  simp [h] at hhead

/-- `dropZeros` keeps the value, and leaves a zero only alone. -/
theorem dropZeros_spec (hds : ∀ c ∈ ds, isAsciiDigit c) :
    (∀ c ∈ Web.dropZeros ds, isAsciiDigit c) ∧ digitsValue (Web.dropZeros ds) = digitsValue ds ∧
      (Web.dropZeros ds = [] ↔ ds = []) ∧
      ((Web.dropZeros ds).head? = some '0' → Web.dropZeros ds = ['0']) := by
  fun_induction Web.dropZeros ds with
  | case1 c cs hc ih =>
      obtain ⟨hdigits, hvalue, hnil, hhead⟩ := ih fun d hd => hds d (List.mem_cons_of_mem _ hd)
      refine ⟨hdigits, ?_, by simp [hnil], hhead⟩
      rw [hvalue, digitsValue_cons '0']
      simp
  | case2 c cs hc => exact absurd (hds c (by simp)) hc
  | case3 cs hcs =>
      refine ⟨hds, rfl, Iff.rfl, fun hhead => ?_⟩
      obtain ⟨rest, rfl⟩ := List.head?_eq_some_iff.mp hhead
      cases rest with
      | nil => rfl
      | cons c rest => exact absurd rfl (hcs c rest)

theorem dropZeros_length_le_iff (hk : 0 < k) (hds : ∀ c ∈ ds, isAsciiDigit c) :
    (Web.dropZeros ds).length ≤ k ↔ digitsValue ds < 10 ^ k := by
  obtain ⟨hdigits, hvalue, -, hhead⟩ := dropZeros_spec hds
  by_cases hzero : (Web.dropZeros ds).head? = some '0'
  · rw [← hvalue, hhead hzero]
    exact iff_of_true hk (by simp [digitsValue])
  · rw [length_le_iff hdigits hzero, hvalue]

end digits

/-! ### The parser of the server -/

section server
variable {debug : String → String} {raw s : String} {h : ℤ}

theorem digits_utf8ByteSize {cs : List Char} (hcs : ∀ c ∈ cs, isAsciiDigit c) :
    (String.ofList cs).utf8ByteSize = cs.length := by
  induction cs with
  | nil => rfl
  | cons c cs ih =>
      have hc := hcs c List.mem_cons_self
      have hone : c.utf8Size = 1 := by
        refine Char.utf8Size_eq_one_iff.mpr (UInt32.le_iff_toNat_le.mpr ?_)
        unfold isAsciiDigit at hc
        simp only [Bool.and_eq_true, decide_eq_true_eq] at hc
        have hnat : c.val.toNat = c.toNat := rfl
        rw [hnat]
        exact hc.2.trans (by decide)
      rw [String.ofList_cons, String.utf8ByteSize_append, String.utf8ByteSize_singleton, hone,
        ih fun d hd => hcs d (List.mem_cons_of_mem _ hd), List.length_cons, Nat.add_comm]

/-- A decimal, by the parts before and after the point. -/
theorem decimalText_iff {whole frac : String}
    (hparts : (splitOnce '.' s).getD (s, "") = (whole, frac)) : DecimalText s.toList h ↔
      ((∀ c ∈ whole.toList, isAsciiDigit c) ∧ (∀ c ∈ frac.toList, isAsciiDigit c) ∧
        (whole.toList ≠ [] ∨ frac.toList ≠ []) ∧ s.toList.getLast? ≠ some '.') ∧
      frac.toList.length ≤ 2 ∧
      h = digitsValue whole.toList * 100 + digitsValue (Web.padEnd 2 frac.toList) := by
  have hpoint : ∀ {ds : List Char}, (∀ c ∈ ds, isAsciiDigit c) → '.' ∉ ds :=
    fun hds hmem => digit_ne (hds '.' hmem) (by decide) rfl
  cases hsplit : splitOnce '.' s with
  | none =>
      -- no point: the text is the part before it
      rw [hsplit] at hparts
      obtain ⟨rfl, rfl⟩ := Prod.mk.inj hparts
      have hno : '.' ∉ s.toList := by
        intro hmem
        obtain ⟨before, after, hs, hbefore⟩ := List.eq_append_cons_of_mem hmem
        have hsome := splitOnce_eq (a := String.ofList before) (b := String.ofList after)
          (s := s) (by simpa using hs) (by simpa using hbefore)
        rw [hsplit] at hsome
        cases hsome
      constructor
      · rintro ⟨whole, frac, hdigits, hlen, hne, hs, rfl⟩
        by_cases hfrac : frac = []
        · subst hfrac
          rw [if_pos rfl] at hs
          rw [hs]
          refine ⟨⟨fun c hc => hdigits c (by simp [hc]), by simp, by simpa using hne, fun hlast => ?_⟩,
            by simp, rfl⟩
          exact hno (hs ▸ List.mem_of_getLast? hlast)
        · rw [if_neg hfrac] at hs
          exact absurd (hs ▸ List.mem_append_right _ List.mem_cons_self) hno
      · rintro ⟨⟨hwhole, -, hne, -⟩, -, rfl⟩
        exact ⟨s.toList, [], by simpa using hwhole, by simp, by simpa using hne, by simp, rfl⟩
  | some parts =>
      rw [hsplit] at hparts
      obtain rfl : parts = (whole, frac) := hparts
      obtain ⟨hs, hwhole⟩ := splitOnce_some hsplit
      constructor
      · rintro ⟨whole', frac', hdigits, hlen, hne, hs', rfl⟩
        have hwhole' := hpoint fun c hc => hdigits c (List.mem_append_left _ hc)
        by_cases hfrac : frac' = []
        · rw [hfrac, if_pos rfl] at hs'
          rw [hs'] at hs
          exact absurd (hs ▸ List.mem_append_right _ List.mem_cons_self) hwhole'
        · rw [if_neg hfrac, hs] at hs'
          have hspan := congrArg (List.span (· != '.')) hs'
          rw [span_ne_append hwhole, span_ne_append hwhole'] at hspan
          obtain ⟨hfirst, hsecond⟩ := Prod.mk.inj hspan
          rw [(List.cons_eq_cons.mp hsecond).2, hfirst]
          refine ⟨⟨fun c hc => hdigits c (List.mem_append_left _ hc),
            fun c hc => hdigits c (List.mem_append_right _ hc), hne, fun hlast => ?_⟩, hlen, rfl⟩
          rw [hs, (List.cons_eq_cons.mp hsecond).2, List.getLast?_append_of_ne_nil _ (by simp),
            List.getLast?_cons_of_ne_nil hfrac] at hlast
          exact hpoint (fun c hc => hdigits c (List.mem_append_right _ hc))
            (List.mem_of_getLast? hlast)
      · rintro ⟨⟨hdigits, hdigits', hne, hlast⟩, hlen, rfl⟩
        have hfrac : frac.toList ≠ [] := by
          intro hnil
          rw [hs, hnil, List.getLast?_concat] at hlast
          exact hlast rfl
        refine ⟨whole.toList, frac.toList, fun c hc => ?_, hlen, hne, ?_, rfl⟩
        · rcases List.mem_append.mp hc with hc | hc
          · exact hdigits c hc
          · exact hdigits' c hc
        · rw [if_neg hfrac, hs]

/-- The value of the places. -/
theorem fracValue_eq (frac : List Char) : (∀ c ∈ frac, isAsciiDigit c) → frac.length ≤ 2 →
    (digitsValue (Web.padEnd 2 frac) : ℤ) = match frac with
      | [] => 0
      | [c] => (c.toNat - 0x30) * 10
      | cs => digitsValue cs := by
  intro hfrac hlen
  match frac, hlen with
  | [], _ => rfl
  | [c], _ =>
      have hc := hfrac c List.mem_cons_self
      unfold isAsciiDigit at hc
      simp only [Bool.and_eq_true, decide_eq_true_eq] at hc
      simp only [Web.padEnd, digitsValue, List.length_singleton, List.replicate_succ,
        List.replicate_zero, List.singleton_append, List.foldl_cons, List.foldl_nil]
      have hzero : '0'.toNat = 48 := rfl
      rw [hzero]
      omega
  | [c, d], _ => rfl

/-- A decimal begins with a digit or the point. -/
theorem DecimalText.head {cs : List Char} (hcs : DecimalText cs h) : cs ≠ [] ∧
    ∀ c, cs.head? = some c → isAsciiDigit c ∨ c = '.' := by
  obtain ⟨whole, frac, hdigits, -, hne, rfl, -⟩ := hcs
  cases whole with
  | nil =>
      have hfrac : frac ≠ [] := by simpa using hne
      rw [if_neg hfrac]
      exact ⟨by simp, fun c hc => Or.inr (Option.some.inj hc).symm⟩
  | cons d whole =>
      have hd : isAsciiDigit d := hdigits d (by simp)
      refine ⟨by split <;> simp, fun c hc => Or.inl ?_⟩
      have hcd : d = c := by
        split at hc
        · exact Option.some.inj hc
        · exact Option.some.inj hc
      rw [← hcd]
      exact hd

theorem DecimalText.chars {cs : List Char} (hcs : DecimalText cs h) :
    ∀ c ∈ cs, isAsciiDigit c ∨ c = '.' := by
  obtain ⟨whole, frac, hdigits, -, -, rfl, -⟩ := hcs
  intro c hc
  split at hc
  · exact Or.inl (hdigits c (List.mem_append_left _ hc))
  · rw [List.mem_append, List.mem_cons] at hc
    rcases hc with hc | hc | hc
    · exact Or.inl (hdigits c (List.mem_append_left _ hc))
    · exact Or.inr hc
    · exact Or.inl (hdigits c (List.mem_append_right _ hc))

/-- `parse_quantity` reads the decimals between 0 and the limit. -/
theorem parseQuantity_iff : parseQuantity debug raw = .ok h ↔
    DecimalText (trim raw).toList h ∧ 0 < h ∧ h ≤ maxQuantityHundredths := by
  have hif : ∀ {c : Prop} [Decidable c] {e : String} {x : Except String ℤ},
      (if c then .error e else x) = .ok h ↔ ¬ c ∧ x = .ok h := by
    intro c _ e x
    by_cases hc : c <;> simp [hc]
  rcases hparts : (splitOnce '.' (trim raw)).getD (trim raw, "") with ⟨whole, frac⟩
  have hformed : ¬ (!(!(whole.isEmpty && frac.isEmpty) && whole.toList.all isAsciiDigit &&
      frac.toList.all isAsciiDigit && !decide ((trim raw).toList.getLast? = some '.'))) = true ↔
      (∀ c ∈ whole.toList, isAsciiDigit c) ∧ (∀ c ∈ frac.toList, isAsciiDigit c) ∧
        (whole.toList ≠ [] ∨ frac.toList ≠ []) ∧ (trim raw).toList.getLast? ≠ some '.' := by
    have hempty : ∀ s : String, s.isEmpty = true ↔ s.toList = [] := fun s => by
      rw [String.isEmpty_iff, String.toList_eq_nil_iff]
    have hne : (whole.isEmpty && frac.isEmpty) = false ↔ whole.toList ≠ [] ∨ frac.toList ≠ [] := by
      rw [← Bool.not_eq_true, Bool.and_eq_true, hempty, hempty, not_and_or]
    rw [Bool.not_eq_true', Bool.not_eq_false, Bool.and_eq_true, Bool.and_eq_true, Bool.and_eq_true,
      Bool.not_eq_true', Bool.not_eq_true', hne, List.all_eq_true, List.all_eq_true,
      decide_eq_false_iff_not]
    constructor
    · rintro ⟨⟨⟨hne, hwhole⟩, hfrac⟩, hlast⟩
      exact ⟨hwhole, hfrac, hne, hlast⟩
    · rintro ⟨hwhole, hfrac, hne, hlast⟩
      exact ⟨⟨⟨hne, hwhole⟩, hfrac⟩, hlast⟩
  unfold parseQuantity
  simp only [bind, Except.bind, pure, Except.pure, throw, throwThe, MonadExceptOf.throw, hif, hparts,
    digitsValue_dropWhile]
  rw [hformed]
  constructor
  · rintro ⟨-, -, hformed, hsize, -, hpos, hmax, hvalue⟩
    have hlen : frac.toList.length ≤ 2 := by
      rw [← digits_utf8ByteSize hformed.2.1, String.ofList_toList]
      omega
    have hvalue' : (digitsValue whole.toList : ℤ) * 100 +
        digitsValue (Web.padEnd 2 frac.toList) = h := by
      rw [fracValue_eq frac.toList hformed.2.1 hlen]
      exact Except.ok.inj hvalue
    rw [Except.ok.inj hvalue] at hpos hmax
    exact ⟨(decimalText_iff hparts).mpr ⟨hformed, hlen, hvalue'.symm⟩, by omega, by omega⟩
  · rintro ⟨hdecimal, hpos, hmax⟩
    obtain ⟨hne, hhead⟩ := hdecimal.head
    obtain ⟨hformed, hlen, rfl⟩ := (decimalText_iff hparts).mp hdecimal
    have hsize := digits_utf8ByteSize hformed.2.1
    rw [String.ofList_toList] at hsize
    have hshort : (whole.toList.dropWhile (· == '0')).length ≤ 7 := by
      rw [dropWhile_length_le_iff hformed.1]
      unfold maxQuantityHundredths at hmax
      omega
    have hfrac := fracValue_eq frac.toList hformed.2.1 hlen
    rw [hfrac] at hpos hmax ⊢
    refine ⟨fun hempty => hne ?_, fun hminus => ?_, hformed, by omega, by omega, not_le.mpr hpos,
      not_lt.mpr hmax, rfl⟩
    · rw [String.isEmpty_iff] at hempty
      rw [hempty]
      rfl
    · rcases hhead _ hminus with hdigit | hpoint
      · exact absurd hdigit (by decide)
      · exact absurd hpoint (by decide)

end server

/-! ### The parser of the browser -/

section browser
variable {cs : List Char} {h : ℤ} {k : ℕ}

theorem number_eq {n : ℤ} (hn : |n| ≤ 2 ^ 53) : Web.number n = n := by
  unfold Web.number
  rw [Binary64.round_int hn, Int.floor_intCast]

theorem floorDiv_eq {n d : ℤ} (hn : 0 ≤ n) (hn' : n < 2 ^ 53) (hd : 0 < d) :
    Web.floorDiv n d = n / d := Binary64.floor_round_div hn hn' hd

/-- The groups of the pattern. -/
theorem decimalPattern_iff {whole : List Char} {frac : Option (List Char)} :
    Web.decimalPattern cs = some (whole, frac) ↔ (∀ c ∈ whole, isAsciiDigit c) ∧
      match frac with
      | none => cs = whole
      | some frac => cs = whole ++ '.' :: frac ∧ (∀ c ∈ frac, isAsciiDigit c) ∧
          (frac.length = 1 ∨ frac.length = 2) := by
  have hcs := List.takeWhile_append_dropWhile (p := isAsciiDigit) (l := cs)
  have htake : ∀ c ∈ cs.takeWhile isAsciiDigit, isAsciiDigit c := fun c hc =>
    List.mem_takeWhile_imp hc
  unfold Web.decimalPattern
  constructor
  · intro hpattern
    split at hpattern
    · rename_i hrest
      obtain ⟨rfl, rfl⟩ := Prod.mk.inj (Option.some.inj hpattern)
      rw [hrest, List.append_nil] at hcs
      exact ⟨htake, hcs.symm⟩
    · rename_i c frac' hrest
      dsimp only at hpattern
      split at hpattern
      · rename_i hc
        obtain ⟨rfl, rfl⟩ := Prod.mk.inj (Option.some.inj hpattern)
        simp only [Bool.and_eq_true, Bool.or_eq_true, beq_iff_eq, List.all_eq_true] at hc
        obtain ⟨⟨rfl, hfrac⟩, hlen⟩ := hc
        exact ⟨htake, by rw [← hrest, hcs], hfrac, hlen⟩
      · cases hpattern
  · rintro ⟨hwhole, hfrac⟩
    cases frac with
    | none =>
        obtain rfl : cs = whole := hfrac
        have hnil : cs.dropWhile isAsciiDigit = [] := List.dropWhile_eq_nil_iff.mpr hwhole
        have hall : cs.takeWhile isAsciiDigit = cs := List.takeWhile_eq_self_iff.mpr hwhole
        rw [hnil, hall]
    | some frac =>
        obtain ⟨rfl, hfrac, hlen⟩ := hfrac
        rw [List.takeWhile_append_of_pos hwhole, List.dropWhile_append_of_pos hwhole,
          List.takeWhile_cons_of_neg (by decide), List.dropWhile_cons_of_neg (by decide),
          List.append_nil]
        refine if_pos ?_
        simpa [hlen] using hfrac

/-- A decimal, by the groups of the pattern. -/
theorem decimalText_pattern : DecimalText cs h ↔ ∃ whole frac,
    Web.decimalPattern cs = some (whole, frac) ∧ (whole ≠ [] ∨ frac ≠ none) ∧
      h = digitsValue whole * 100 + digitsValue (Web.padEnd 2 (frac.getD [])) := by
  constructor
  · rintro ⟨whole, frac, hdigits, hlen, hne, hcs, rfl⟩
    have hwhole : ∀ c ∈ whole, isAsciiDigit c := fun c hc => hdigits c (List.mem_append_left _ hc)
    by_cases hfrac : frac = []
    · subst hfrac
      refine ⟨whole, none, decimalPattern_iff.mpr ⟨hwhole, hcs⟩, by simpa using hne, rfl⟩
    · rw [if_neg hfrac] at hcs
      have hpos := List.length_pos_iff.mpr hfrac
      refine ⟨whole, some frac, decimalPattern_iff.mpr ⟨hwhole, hcs, fun c hc => ?_, by omega⟩,
        Or.inr (by simp), rfl⟩
      exact hdigits c (List.mem_append_right _ hc)
  · rintro ⟨whole, frac, hpattern, hne, rfl⟩
    obtain ⟨hwhole, hcs⟩ := decimalPattern_iff.mp hpattern
    cases frac with
    | none => exact ⟨whole, [], by simpa using hwhole, by simp, by simpa using hne, hcs, rfl⟩
    | some frac =>
        obtain ⟨rfl, hfrac, hlen⟩ := hcs
        have hne' : frac ≠ [] := by
          rintro rfl
          simp at hlen
        refine ⟨whole, frac, fun c hc => ?_, by omega, Or.inr hne', (if_neg hne').symm, rfl⟩
        rcases List.mem_append.mp hc with hc | hc
        · exact hwhole c hc
        · exact hfrac c hc

theorem padEnd_value_lt {frac : List Char} (hfrac : ∀ c ∈ frac, isAsciiDigit c)
    (hlen : frac.length ≤ 2) : digitsValue (Web.padEnd 2 frac) < 100 := by
  have hdigits : ∀ c ∈ Web.padEnd 2 frac, isAsciiDigit c := by
    intro c hc
    rcases List.mem_append.mp hc with hc | hc
    · exact hfrac c hc
    · rw [List.eq_of_mem_replicate hc]
      rfl
  have hlt := digitsValue_lt hdigits
  have hpadded : (Web.padEnd 2 frac).length = 2 := by
    unfold Web.padEnd
    rw [List.length_append, List.length_replicate]
    omega
  rw [hpadded] at hlt
  exact hlt

/-- `parseDecimal` reads the decimals below a limit. -/
theorem parseDecimal_iff (hk : 0 < k) (hk' : k ≤ 8) : Web.parseDecimal k cs = some h ↔
    DecimalText cs h ∧ h < 10 ^ (k + 2) := by
  rw [decimalText_pattern]
  unfold Web.parseDecimal
  cases hpattern : Web.decimalPattern cs with
  | none => simp
  | some groups =>
      obtain ⟨whole, frac⟩ := groups
      obtain ⟨hwhole, hfrac⟩ := decimalPattern_iff.mp hpattern
      have hplaces : digitsValue (Web.padEnd 2 (frac.getD [])) < 100 := by
        cases frac with
        | none => decide
        | some frac => exact padEnd_value_lt hfrac.2.1 (by have := hfrac.2.2; simp; omega)
      have hlimit := dropZeros_length_le_iff hk hwhole
      obtain ⟨-, hvalue, hnil, -⟩ := dropZeros_spec hwhole
      have hpow : (10 : ℤ) ^ (k + 2) = 10 ^ k * 100 := by rw [pow_add]; norm_num
      have hpow' : (10 : ℕ) ^ k ≤ 10 ^ 8 := Nat.pow_le_pow_right (by decide) hk'
      have hcast : ((10 ^ k : ℕ) : ℤ) = 10 ^ k := by push_cast; rfl
      have hgroups : (∃ whole' frac', some (whole, frac) = some (whole', frac') ∧
          (whole' ≠ [] ∨ frac' ≠ none) ∧
          h = digitsValue whole' * 100 + digitsValue (Web.padEnd 2 (frac'.getD []))) ↔
          (whole ≠ [] ∨ frac ≠ none) ∧
            h = digitsValue whole * 100 + digitsValue (Web.padEnd 2 (frac.getD [])) := by
        constructor
        · rintro ⟨whole', frac', heq, hrest⟩
          cases heq
          exact hrest
        · exact fun hrest => ⟨whole, frac, rfl, hrest⟩
      rw [hgroups]
      dsimp only
      by_cases hempty : whole = [] ∧ frac = none
      · rw [if_pos (by simp [hempty])]
        simp [hempty]
      · rw [if_neg (by simpa using hempty)]
        have hne : whole ≠ [] ∨ frac ≠ none := by tauto
        by_cases hlen : (Web.dropZeros whole).length ≤ k
        · -- few digits, so that every number is exact
          have hlt := hlimit.mp hlen
          have hwholeNumber : (if (Web.dropZeros whole).isEmpty then 0
              else Web.number (digitsValue (Web.dropZeros whole))) = (digitsValue whole : ℤ) := by
            by_cases hzero : Web.dropZeros whole = []
            · rw [if_pos (by simp [hzero]), hnil.mp hzero]
              rfl
            · rw [if_neg (by simpa using hzero), hvalue]
              exact number_eq (by rw [abs_of_nonneg (by omega)]; omega)
          have hsum : ∀ place : ℕ, place < 100 →
              (some (Web.number (Web.number ((if (Web.dropZeros whole).isEmpty then 0
                else Web.number (digitsValue (Web.dropZeros whole))) * 100) + place)) = some h ↔
              ((whole ≠ [] ∨ frac ≠ none) ∧ h = digitsValue whole * 100 + place) ∧
                h < 10 ^ (k + 2)) := by
            intro place hplace
            rw [hwholeNumber, number_eq (n := _ * 100) (by rw [abs_of_nonneg (by omega)]; omega),
              number_eq (by rw [abs_of_nonneg (by omega)]; omega), Option.some_inj]
            constructor
            · rintro rfl
              exact ⟨⟨hne, rfl⟩, by rw [hpow, ← hcast]; omega⟩
            · rintro ⟨⟨-, rfl⟩, -⟩
              rfl
          rw [if_neg (by omega)]
          cases frac with
          | none => exact hsum 0 (by decide)
          | some frac =>
              rw [Option.getD_some] at hplaces
              have hnumber : Web.number (digitsValue (Web.padEnd 2 frac)) =
                  (digitsValue (Web.padEnd 2 frac) : ℤ) :=
                number_eq (by rw [abs_of_nonneg (by omega)]; omega)
              dsimp only
              rw [hnumber]
              exact hsum _ hplaces
        · rw [if_pos (by omega)]
          refine iff_of_false (by simp) ?_
          rintro ⟨⟨-, rfl⟩, hsmall⟩
          rw [hpow, ← hcast] at hsmall
          exact hlen (hlimit.mpr (by omega))

end browser

end Microticket

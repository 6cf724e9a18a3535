import Mathlib.Algebra.Group.Nat.Defs
import Mathlib.Data.List.DropRight
import Mathlib.Data.List.TakeDrop
import Mathlib.Data.Nat.Notation

/-! # Rust string operations

The operations of Rust's `str` that the modelled code uses, on the characters of a Lean `String`:
`trim` (the Unicode property White_Space, as `char::is_whitespace`), `splitOnce` and its companions,
the ASCII tests, `parse::<u64>` and the decimal formats `{n:0w}`.  Lengths in bytes are
`String.utf8ByteSize`, lengths in characters `String.length`. -/

namespace RustText

/-- `char::is_whitespace`: the Unicode property White_Space. -/
def isWhitespace (c : Char) : Bool :=
  (0x09 ≤ c.toNat && c.toNat ≤ 0x0D) || c.toNat == 0x20 || c.toNat == 0x85 || c.toNat == 0xA0 ||
  c.toNat == 0x1680 || (0x2000 ≤ c.toNat && c.toNat ≤ 0x200A) || c.toNat == 0x2028 ||
  c.toNat == 0x2029 || c.toNat == 0x202F || c.toNat == 0x205F || c.toNat == 0x3000

/-- `char::is_ascii_digit`. -/
def isAsciiDigit (c : Char) : Bool := 0x30 ≤ c.toNat && c.toNat ≤ 0x39

/-- Drop the characters with `p` at both ends (`trim_matches`). -/
def trimMatches (p : Char → Bool) (s : String) : String :=
  String.ofList (((s.toList.dropWhile p).reverse.dropWhile p).reverse)

/-- `str::trim`. -/
def trim (s : String) : String := trimMatches isWhitespace s

/-- `str::split_once` at a character. -/
def splitOnce (c : Char) (s : String) : Option (String × String) :=
  match s.toList.span (· != c) with
  | (before, _ :: after) => some (String.ofList before, String.ofList after)
  | (_, []) => none

/-- `str::rsplit_once` at a character. -/
def rsplitOnce (c : Char) (s : String) : Option (String × String) :=
  match s.toList.reverse.span (· != c) with
  | (after, _ :: before) => some (String.ofList before.reverse, String.ofList after.reverse)
  | (_, []) => none

/-- `str::strip_prefix`. -/
def dropStart (start s : String) : Option String :=
  (dropChars start.toList s.toList).map String.ofList
where
  dropChars : List Char → List Char → Option (List Char)
    | [], rest => some rest
    | _ :: _, [] => none
    | c :: cs, d :: ds => if c = d then dropChars cs ds else none

/-- The runs of characters without `p`, in order. -/
def runs (p : Char → Bool) : List Char → List (List Char)
  | [] => []
  | c :: cs =>
      if p c then runs p cs
      else match cs with
        | [] => [[c]]
        | d :: _ => if p d then [c] :: runs p cs
          else match runs p cs with
            | [] => [[c]]
            | run :: rest => (c :: run) :: rest

/-- `str::split_whitespace`. -/
def splitWhitespace (s : String) : List String := (runs isWhitespace s.toList).map String.ofList

/-- `str::contains` of a text. -/
def containsText (text s : String) : Bool :=
  s.toList.tails.any fun rest => (dropStart.dropChars text.toList rest).isSome

/-- `str::to_ascii_lowercase`. -/
def asciiLower (s : String) : String := String.ofList (s.toList.map Char.toLower)

/-- `str::eq_ignore_ascii_case`. -/
def eqIgnoreAsciiCase (a b : String) : Bool := a.toList.map Char.toLower == b.toList.map Char.toLower

/-- `str::replace` of a character. -/
def replaceChar (c : Char) (text : String) (s : String) : String :=
  String.ofList (s.toList.flatMap fun d => if d = c then text.toList else [d])

/-- `str::as_bytes`. -/
def asBytes (s : String) : List UInt8 := s.toByteArray.data.toList

/-- The value of a string of ASCII digits (`str::parse`). -/
def digitsValue (cs : List Char) : ℕ := cs.foldl (fun n c => 10 * n + (c.toNat - 0x30)) 0

/-- `str::parse::<u64>`: decimal digits after an optional `+`. -/
def parseU64 (s : String) : Option ℕ :=
  let digits := match s.toList with
    | '+' :: rest => rest
    | cs => cs
  if digits.isEmpty || !digits.all isAsciiDigit || 2 ^ 64 ≤ digitsValue digits then none
  else some (digitsValue digits)

/-- `{n:0w}`: decimal, padded with zeros to `w` characters. -/
def zeroPadded (w n : ℕ) : String :=
  String.ofList (List.replicate (w - (Nat.toDigits 10 n).length) '0' ++ Nat.toDigits 10 n)

/-! ### Trimming -/

/-- What is trimmed stays so. -/
theorem trim_trim (s : String) : trim (trim s) = trim s := by
  have hdrop : ∀ l : List Char, ((l.dropWhile isWhitespace).rdropWhile isWhitespace).dropWhile
      isWhitespace = (l.dropWhile isWhitespace).rdropWhile isWhitespace := by
    intro l
    rw [List.dropWhile_eq_self_iff]
    intro hpos
    have hfront := List.rdropWhile_prefix isWhitespace (l.dropWhile isWhitespace)
    have hlen : 0 < (l.dropWhile isWhitespace).length := lt_of_lt_of_le hpos hfront.length_le
    rw [hfront.getElem hpos]
    exact List.dropWhile_get_zero_not _ l hlen
  have htrim : ∀ l : List Char, trim (String.ofList l) =
      String.ofList ((l.dropWhile isWhitespace).rdropWhile isWhitespace) := by
    intro l
    unfold trim trimMatches
    rw [String.toList_ofList]
    rfl
  conv_rhs => rw [← String.ofList_toList (s := s), htrim]
  conv_lhs => rw [← String.ofList_toList (s := s), htrim, htrim, hdrop]
  rw [List.rdropWhile_idempotent]

/-- A text that neither begins nor ends with a character that is dropped. -/
theorem trimMatches_ends {p : Char → Bool} {s : String} {c d : Char} (hhead : s.toList.head? = some c)
    (hlast : s.toList.getLast? = some d) (hc : p c = false) (hd : p d = false) :
    trimMatches p s = s := by
  have hkeep : ∀ (cs : List Char) (c : Char), cs.head? = some c → p c = false →
      cs.dropWhile p = cs := by
    intro cs c hcs hc
    cases cs with
    | nil => rfl
    | cons b cs =>
        obtain rfl := Option.some.inj hcs
        rw [List.dropWhile_cons_of_neg (by simp [hc])]
  have hreverse : s.toList.reverse.head? = some d := by rw [List.head?_reverse, hlast]
  unfold trimMatches
  rw [hkeep _ c hhead hc, hkeep _ d hreverse hd, List.reverse_reverse, String.ofList_toList]

/-! ### Splitting at the last separator -/

/-- A list is cut at its last `x` in one way. -/
theorem append_cons_inj {α : Type} {x : α} {a b m n : List α} (hm : x ∉ m) (hn : x ∉ n)
    (h : a ++ x :: m = b ++ x :: n) : a = b ∧ m = n := by
  rcases List.append_eq_append_iff.mp h with ⟨c, rfl, hc⟩ | ⟨c, rfl, hc⟩
  · cases c with
    | nil =>
        rw [List.nil_append, List.cons_eq_cons] at hc
        exact ⟨(List.append_nil a).symm, hc.2⟩
    | cons y c =>
        rw [List.cons_append, List.cons_eq_cons] at hc
        exact absurd (hc.2 ▸ List.mem_append_right c List.mem_cons_self) hm
  · cases c with
    | nil =>
        rw [List.nil_append, List.cons_eq_cons] at hc
        exact ⟨List.append_nil b, hc.2.symm⟩
    | cons y c =>
        rw [List.cons_append, List.cons_eq_cons] at hc
        exact absurd (hc.2 ▸ List.mem_append_right c List.mem_cons_self) hn

/-- The decimal digits of a number are no `c`, unless `c` is a digit. -/
theorem not_mem_toString {c : Char} (hc : c.isDigit = false) (n : ℕ) :
    c ∉ (toString n).toList := by
  intro h
  have hdigits : (toString n).toList = Nat.toDigits 10 n := String.toList_ofList
  rw [hdigits] at h
  rw [Nat.isDigit_of_mem_toDigits (by decide) (by decide) h] at hc
  cases hc

/-! ### Decimal numbers -/

theorem digitsValue_concat (cs : List Char) (c : Char) :
    digitsValue (cs ++ [c]) = 10 * digitsValue cs + (c.toNat - 0x30) := by
  unfold digitsValue
  rw [List.foldl_append]
  rfl

/-- The digits of a number have its value. -/
theorem digitsValue_toDigits (n : ℕ) : digitsValue (Nat.toDigits 10 n) = n := by
  induction n using Nat.strongRecOn with
  | ind n ih =>
      rw [Nat.toDigits_eq_if (by decide)]
      split
      · rename_i hlt
        have hdigit := Nat.toNat_digitChar_sub_48_of_lt_ten hlt
        show 10 * 0 + (n.digitChar.toNat - 0x30) = n
        omega
      · rename_i hge
        have hlt : n % 10 < 10 := Nat.mod_lt n (by decide)
        have hdigit := Nat.toNat_digitChar_sub_48_of_lt_ten hlt
        rw [digitsValue_concat, ih (n / 10) (by omega)]
        omega

theorem toString_inj {m n : ℕ} (h : toString m = toString n) : m = n := by
  have hdigits : Nat.toDigits 10 m = Nat.toDigits 10 n := by
    rw [← Nat.toList_repr, ← Nat.toList_repr]
    exact congrArg String.toList h
  rw [← digitsValue_toDigits m, hdigits, digitsValue_toDigits]

/-! ### Splitting at the first separator -/

theorem span_ne_append {c : Char} {before after : List Char} (h : c ∉ before) :
    (before ++ c :: after).span (· != c) = (before, c :: after) := by
  rw [List.span_eq_takeWhile_dropWhile]
  have hall : ∀ d ∈ before, (d != c) = true := by
    intro d hd
    rw [bne_iff_ne]
    rintro rfl
    exact h hd
  rw [List.takeWhile_append_of_pos hall, List.dropWhile_append_of_pos hall]
  simp

/-- A text is cut at its last `c`. -/
theorem rsplitOnce_append {c : Char} {before after : List Char} (hafter : c ∉ after) :
    rsplitOnce c (String.ofList (before ++ c :: after)) =
      some (String.ofList before, String.ofList after) := by
  have hreverse : (String.ofList (before ++ c :: after)).toList.reverse =
      after.reverse ++ c :: before.reverse := by simp
  unfold rsplitOnce
  rw [hreverse, span_ne_append (by simpa using hafter)]
  simp

/-- A text is split at its first separator. -/
theorem splitOnce_eq {c : Char} {s a b : String} (h : s.toList = a.toList ++ c :: b.toList)
    (ha : c ∉ a.toList) : splitOnce c s = some (a, b) := by
  unfold splitOnce
  rw [h, span_ne_append ha]
  simp

theorem splitOnce_some {c : Char} {s a b : String} (h : splitOnce c s = some (a, b)) :
    s.toList = a.toList ++ c :: b.toList ∧ c ∉ a.toList := by
  unfold splitOnce at h
  rw [List.span_eq_takeWhile_dropWhile] at h
  have happend := List.takeWhile_append_dropWhile (p := (· != c)) (l := s.toList)
  split at h
  · rename_i before d after heq
    obtain ⟨hbefore, hafter⟩ := Prod.mk.inj heq
    obtain ⟨rfl, rfl⟩ := Prod.mk.inj (Option.some.inj h)
    rw [String.toList_ofList, String.toList_ofList]
    have hd : d = c := by
      have hhead := List.head?_dropWhile_not (· != c) s.toList
      rw [hafter] at hhead
      simpa using hhead
    refine ⟨?_, fun hmem => ?_⟩
    · rw [← happend, hbefore, hafter, hd]
    · rw [← hbefore] at hmem
      have hne := List.all_eq_true.mp List.all_takeWhile c hmem
      simp at hne
  · cases h

theorem splitOnce_none {c : Char} {s : String} (h : c ∉ s.toList) : splitOnce c s = none := by
  cases hsplit : splitOnce c s with
  | none => rfl
  | some parts =>
      have hlist := (splitOnce_some (a := parts.1) (b := parts.2) hsplit).1
      rw [hlist] at h
      exact absurd (List.mem_append_right _ List.mem_cons_self) h

end RustText

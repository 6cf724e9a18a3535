import Microticket.Pipeline
import Mathlib

/-! # Names of attachments

`sanitize_filename` takes one run of dots off at either end, with the spaces around it, cuts the name,
and takes off another run.  A name that begins or ends with more runs of dots, with spaces between
them, therefore keeps a dot at that end (`LeavesDot`), and may come out as `.` or `..`.  In all other
respects every name is safe, and exactly these names are not (`sanitize_filename_safe`). -/

namespace Microticket

open RustText

/-! ### Both ends of a list -/

section ends
variable {α : Type*} {p q : α → Bool}

theorem rdropWhile_cons (c : α) (l : List α) : (c :: l).rdropWhile p =
    if l.rdropWhile p = [] then if p c then [] else [c] else c :: l.rdropWhile p := by
  unfold List.rdropWhile
  rw [List.reverse_cons, List.dropWhile_append]
  by_cases hnil : l.reverse.dropWhile p = []
  · by_cases hc : p c <;> simp [hnil, hc]
  · simp [hnil]

/-- What is dropped at one end does not depend on what is dropped at the other. -/
theorem dropWhile_rdropWhile (l : List α) :
    (l.rdropWhile q).dropWhile p = (l.dropWhile p).rdropWhile q := by
  induction l with
  | nil => rfl
  | cons c l ih =>
      rw [rdropWhile_cons]
      by_cases hp : p c
      · rw [List.dropWhile_cons_of_pos hp, ← ih]
        by_cases hnil : l.rdropWhile q = []
        · rw [if_pos hnil, hnil]
          by_cases hq : q c <;> simp [hq, hp]
        · rw [if_neg hnil, List.dropWhile_cons_of_pos hp]
      · rw [List.dropWhile_cons_of_neg hp, rdropWhile_cons]
        by_cases hnil : l.rdropWhile q = []
        · rw [if_pos hnil]
          by_cases hq : q c <;> simp [hq, hp]
        · rw [if_neg hnil, List.dropWhile_cons_of_neg hp]

end ends

/-! ### Runs of dots -/

/-- All characters are `c`. -/
def Only (c : Char) (cs : List Char) : Prop := ∀ d ∈ cs, d = c

/-- A text without the spaces at its beginning, one run of dots after them and the spaces after it. -/
def offFront (cs : List Char) : List Char :=
  ((cs.dropWhile (· == ' ')).dropWhile (· == '.')).dropWhile (· == ' ')

def offBack (cs : List Char) : List Char := (offFront cs.reverse).reverse

/-- A text without one run of dots at either end and the spaces around it. -/
def offEnds (cs : List Char) : List Char := offBack (offFront cs)

/-- A dot follows a run of dots and spaces at the beginning. -/
def DotAfterDots (cs : List Char) : Prop :=
  ∃ spaces dots between rest, cs = spaces ++ dots ++ between ++ '.' :: rest ∧
    Only ' ' spaces ∧ Only '.' dots ∧ dots ≠ [] ∧ Only ' ' between ∧ between ≠ []

/-- Two runs of dots, and nothing else but spaces. -/
def TwoRuns (cs : List Char) : Prop :=
  ∃ spaces dots between dots' spaces', cs = spaces ++ dots ++ between ++ dots' ++ spaces' ∧
    Only ' ' spaces ∧ Only '.' dots ∧ dots ≠ [] ∧ Only ' ' between ∧ between ≠ [] ∧
    Only '.' dots' ∧ dots' ≠ [] ∧ Only ' ' spaces'

/-- One run of dots at either end is not all: the text begins with another one. -/
def LeavesDot (cs : List Char) : Prop := DotAfterDots cs ∧ ¬ TwoRuns cs

theorem Only.dropWhile_append {c : Char} {cs : List Char} (h : Only c cs) (rest : List Char) :
    (cs ++ rest).dropWhile (· == c) = rest.dropWhile (· == c) :=
  List.dropWhile_append_of_pos fun d hd => by simp [h d hd]

theorem Only.reverse {c : Char} {cs : List Char} (h : Only c cs) : Only c cs.reverse :=
  fun d hd => h d (List.mem_reverse.mp hd)

theorem Only.cons {c : Char} {cs : List Char} (h : Only c cs) (hne : cs ≠ []) :
    ∃ rest, cs = c :: rest := by
  cases cs with
  | nil => exact absurd rfl hne
  | cons d rest => exact ⟨rest, by rw [h d List.mem_cons_self]⟩

theorem only_takeWhile (c : Char) (cs : List Char) : Only c (cs.takeWhile (· == c)) :=
  fun _ hd => by simpa using List.mem_takeWhile_imp hd

theorem head?_dropWhile_ne (c : Char) (cs : List Char) : (cs.dropWhile (· == c)).head? ≠ some c := by
  intro h
  have hhead := List.head?_dropWhile_not (· == c) cs
  simp [h] at hhead

theorem offFront_head? (cs : List Char) : (offFront cs).head? ≠ some ' ' := head?_dropWhile_ne _ _

/-- What `offFront` takes off. -/
theorem offFront_split (cs : List Char) :
    ∃ spaces dots between, cs = spaces ++ dots ++ between ++ offFront cs ∧ Only ' ' spaces ∧
      Only '.' dots ∧ Only ' ' between ∧ (between ≠ [] → dots ≠ []) ∧
      ((offFront cs).head? = some '.' → between ≠ []) := by
  refine ⟨cs.takeWhile (· == ' '), (cs.dropWhile (· == ' ')).takeWhile (· == '.'),
    ((cs.dropWhile (· == ' ')).dropWhile (· == '.')).takeWhile (· == ' '), ?_, only_takeWhile _ _,
    only_takeWhile _ _, only_takeWhile _ _, fun hbetween hdots => ?_, fun hdot hbetween => ?_⟩
  · unfold offFront
    rw [List.append_assoc, List.append_assoc, List.takeWhile_append_dropWhile,
      List.takeWhile_append_dropWhile, List.takeWhile_append_dropWhile]
  · have hsplit := List.takeWhile_append_dropWhile (p := (· == '.')) (l := cs.dropWhile (· == ' '))
    rw [hdots, List.nil_append] at hsplit
    rw [hsplit] at hbetween
    obtain ⟨rest, hrest⟩ := (only_takeWhile _ _).cons hbetween
    have hhead := head?_dropWhile_ne ' ' cs
    rw [← List.takeWhile_append_dropWhile (p := (· == ' ')) (l := cs.dropWhile (· == ' ')), hrest]
      at hhead
    exact hhead rfl
  · have hsplit := List.takeWhile_append_dropWhile (p := (· == ' '))
      (l := (cs.dropWhile (· == ' ')).dropWhile (· == '.'))
    rw [hbetween, List.nil_append] at hsplit
    unfold offFront at hdot
    rw [hsplit] at hdot
    exact head?_dropWhile_ne _ _ hdot

/-- The runs at the beginning come off. -/
theorem offFront_runs {spaces dots between rest : List Char} (hspaces : Only ' ' spaces)
    (hdots : Only '.' dots) (hbetween : Only ' ' between) (hdot : dots ≠ [])
    (hrest : rest.head? ≠ some ' ' ∧ (between = [] → rest.head? ≠ some '.')) :
    offFront (spaces ++ dots ++ between ++ rest) = rest := by
  have hkeep : ∀ (c : Char) (cs : List Char), cs.head? ≠ some c → cs.dropWhile (· == c) = cs := by
    intro c cs hne
    cases cs with
    | nil => rfl
    | cons d cs =>
        rw [List.dropWhile_cons_of_neg]
        simpa using fun h => hne (by rw [h]; rfl)
  unfold offFront
  rw [List.append_assoc, List.append_assoc, hspaces.dropWhile_append,
    hkeep ' ' (dots ++ _), hdots.dropWhile_append, hkeep '.' (between ++ rest),
    hbetween.dropWhile_append, hkeep ' ' rest hrest.1]
  · cases between with
    | nil => exact hrest.2 rfl
    | cons c between =>
        rw [hbetween c List.mem_cons_self]
        simp
  · obtain ⟨more, rfl⟩ := hdots.cons hdot
    simp

theorem dotAfterDots_iff (cs : List Char) : DotAfterDots cs ↔ (offFront cs).head? = some '.' := by
  constructor
  · rintro ⟨spaces, dots, between, rest, rfl, hspaces, hdots, hdot, hbetween, hspace⟩
    rw [offFront_runs hspaces hdots hbetween hdot ⟨by simp, fun hnil => absurd hnil hspace⟩]
    rfl
  · intro hhead
    obtain ⟨rest, hrest⟩ := List.head?_eq_some_iff.mp hhead
    obtain ⟨spaces, dots, between, hsplit, hspaces, hdots, hbetween, hrun, hspace⟩ := offFront_split cs
    refine ⟨spaces, dots, between, rest, ?_, hspaces, hdots, hrun (hspace hhead), hbetween,
      hspace hhead⟩
    rw [← hrest]
    exact hsplit

/-- Both runs come off, and nothing remains. -/
theorem offEnds_nil {cs : List Char} (h : DotAfterDots cs) : offEnds cs = [] ↔ TwoRuns cs := by
  have hends : ∀ rest : List Char, offBack rest = [] ↔ offFront rest.reverse = [] :=
    fun _ => List.reverse_eq_nil_iff
  constructor
  · intro hnil
    obtain ⟨spaces, dots, between, rest, rfl, hspaces, hdots, hdot, hbetween, hspace⟩ := h
    unfold offEnds at hnil
    rw [hends, offFront_runs hspaces hdots hbetween hdot ⟨by simp, fun hnil => absurd hnil hspace⟩]
      at hnil
    obtain ⟨spaces', dots', between', hsplit, hspaces', hdots', hbetween', hrun, -⟩ :=
      offFront_split ('.' :: rest).reverse
    rw [hnil, List.append_nil] at hsplit
    have hrest := congrArg List.reverse hsplit
    rw [List.reverse_reverse, List.reverse_append, List.reverse_append] at hrest
    -- the last run of dots is what the text goes on with
    have hfirst : between' = [] := by
      by_contra hne
      obtain ⟨more, hmore⟩ := hbetween'.reverse.cons (by simpa using hne)
      rw [hmore] at hrest
      exact absurd (List.cons_eq_cons.mp hrest).1 (by decide)
    have hdot' : dots' ≠ [] := by
      rintro rfl
      rw [hfirst] at hrest
      simp only [List.reverse_nil, List.nil_append] at hrest
      have hmem : '.' ∈ spaces'.reverse := hrest ▸ List.mem_cons_self
      exact absurd (hspaces'.reverse '.' hmem) (by decide)
    refine ⟨spaces, dots, between, dots'.reverse, spaces'.reverse, ?_, hspaces, hdots, hdot, hbetween,
      hspace, hdots'.reverse, by simpa using hdot', hspaces'.reverse⟩
    rw [hrest, hfirst]
    simp
  · rintro ⟨spaces, dots, between, dots', spaces', rfl, hspaces, hdots, hdot, hbetween, hspace,
      hdots', hdot', hspaces'⟩
    obtain ⟨more, hmore⟩ := hdots'.cons hdot'
    unfold offEnds
    rw [hends, List.append_assoc, offFront_runs hspaces hdots hbetween hdot
      ⟨by simp [hmore], fun hnil => absurd hnil hspace⟩, List.reverse_append]
    have hlast : offFront (spaces'.reverse ++ dots'.reverse ++ [] ++ []) = [] :=
      offFront_runs hspaces'.reverse hdots'.reverse (fun _ hd => absurd hd List.not_mem_nil)
        (by simpa using hdot') ⟨by simp, by simp⟩
    simpa using hlast

theorem offBack_eq (cs : List Char) : offBack cs =
    ((cs.rdropWhile (· == ' ')).rdropWhile (· == '.')).rdropWhile (· == ' ') := by
  simp [offBack, offFront, List.rdropWhile]

theorem offEnds_reverse (cs : List Char) : offEnds cs.reverse = (offEnds cs).reverse := by
  have hcomm : offBack (offFront cs) = offFront (offBack cs) := by
    rw [offBack_eq, offBack_eq]
    unfold offFront
    simp only [dropWhile_rdropWhile]
  unfold offEnds
  rw [hcomm]
  rfl

/-- What is left of both ends begins as what is left of the beginning. -/
theorem offEnds_head? {cs : List Char} (hne : offEnds cs ≠ []) :
    (offEnds cs).head? = (offFront cs).head? := by
  have hprefix : offEnds cs <+: offFront cs := by
    refine List.reverse_suffix.mp ?_
    unfold offEnds offBack
    rw [List.reverse_reverse]
    unfold offFront
    exact (List.dropWhile_suffix _).trans ((List.dropWhile_suffix _).trans (List.dropWhile_suffix _))
  obtain ⟨rest, hrest⟩ := hprefix
  rw [← hrest, List.head?_append_of_ne_nil _ hne]

/-- The text that is left begins with a dot exactly if another run of dots was there. -/
theorem offEnds_dot (cs : List Char) : (offEnds cs).head? = some '.' ↔ LeavesDot cs := by
  constructor
  · intro hhead
    have hne : offEnds cs ≠ [] := by
      intro hnil
      rw [hnil] at hhead
      exact absurd hhead (by simp)
    have hdots := (dotAfterDots_iff cs).mpr (by rw [← offEnds_head? hne, hhead])
    exact ⟨hdots, mt (offEnds_nil hdots).mpr hne⟩
  · rintro ⟨hdots, hmore⟩
    rw [offEnds_head? (mt (offEnds_nil hdots).mp hmore)]
    exact (dotAfterDots_iff cs).mp hdots

theorem offEnds_space (cs : List Char) : (offEnds cs).head? ≠ some ' ' := by
  intro hhead
  have hne : offEnds cs ≠ [] := by
    intro hnil
    rw [hnil] at hhead
    exact absurd hhead (by simp)
  rw [offEnds_head? hne] at hhead
  exact offFront_head? cs hhead

theorem offEnds_length (cs : List Char) : (offEnds cs).length ≤ cs.length := by
  have hfront : ∀ cs : List Char, (offFront cs).length ≤ cs.length := fun cs =>
    ((List.dropWhile_suffix _).trans ((List.dropWhile_suffix _).trans
      (List.dropWhile_suffix _))).length_le
  have hback := hfront (offFront cs).reverse
  have hcs := hfront cs
  unfold offEnds offBack
  rw [List.length_reverse] at hback ⊢
  omega

/-! ### What is kept of a name -/

/-- The characters that a safe name may have. -/
def SafeChar (c : Char) : Prop :=
  c.isAlphanum ∨ c = '.' ∨ c = '-' ∨ c = '_' ∨ c = ' '

instance (c : Char) : Decidable (SafeChar c) := by
  unfold SafeChar
  infer_instance

/-- What becomes of a character. -/
def keepChar (c : Char) : Char :=
  if c.isAlphanum || c == '.' || c == '-' || c == '_' || c == ' ' then c else '_'

/-- The last segment of a name without one run of dots at either end and the spaces around it, cut to
the limit. -/
def cutName (name : String) : List Char :=
  (offEnds (lastSegment name.toList)).take maxFilenameLen

theorem keepChar_keeps {c : Char} (h : SafeChar c) : keepChar c = c := by
  unfold SafeChar at h
  unfold keepChar
  rw [if_pos]
  simpa [or_assoc] using h

theorem keepChar_drops {c : Char} (h : ¬ SafeChar c) : keepChar c = '_' := by
  unfold SafeChar at h
  unfold keepChar
  rw [if_neg]
  simpa [or_assoc] using h

theorem keepChar_safe (c : Char) : SafeChar (keepChar c) := by
  by_cases h : SafeChar c
  · rw [keepChar_keeps h]
    exact h
  · rw [keepChar_drops h]
    decide

/-- Among the characters that are kept only a space is whitespace. -/
theorem keepChar_whitespace (c : Char) : isWhitespace (keepChar c) = (c == ' ') := by
  by_cases h : SafeChar c
  · rw [keepChar_keeps h]
    rcases h with halnum | rfl | rfl | rfl | rfl
    · have hspace : c ≠ ' ' := by
        rintro rfl
        exact absurd halnum (by decide)
      have hwhite : isWhitespace c = false := by
        simp only [Char.isAlphanum, Char.isAlpha, Char.isUpper, Char.isLower, Char.isDigit,
          Bool.or_eq_true, Bool.and_eq_true, decide_eq_true_eq, ge_iff_le, UInt32.le_iff_toNat_le]
          at halnum
        have hnat : c.val.toNat = c.toNat := rfl
        rw [← Bool.not_eq_true]
        unfold isWhitespace
        simp at halnum ⊢
        omega
      rw [hwhite, eq_comm]
      simpa using hspace
    all_goals rfl
  · rw [keepChar_drops h]
    have hspace : c ≠ ' ' := fun hc => h (by simp [SafeChar, hc])
    symm
    simpa [isWhitespace] using hspace

theorem keepChar_dot (c : Char) : (keepChar c == '.') = (c == '.') := by
  by_cases h : SafeChar c
  · rw [keepChar_keeps h]
  · rw [keepChar_drops h]
    have hdot : c ≠ '.' := fun hc => h (by simp [SafeChar, hc])
    symm
    simpa using hdot

theorem keepChar_space (c : Char) : keepChar c = ' ' ↔ c = ' ' := by
  constructor
  · intro h
    have hwhite := keepChar_whitespace c
    rw [h] at hwhite
    simpa [isWhitespace] using hwhite
  · rintro rfl
    rfl

/-- A character that only comes of itself is where it was. -/
theorem keepChar_some {d : Char} (hd : ∀ c, keepChar c = d ↔ c = d) (found : Option Char) :
    found.map keepChar = some d ↔ found = some d := by
  cases found with
  | none => simp
  | some c => simpa using hd c

/-- A name without its last trims. -/
theorem trimDots_map (cs : List Char) :
    trim (trimMatches (· == '.') (trim (String.ofList (cs.map keepChar)))) =
      String.ofList ((offEnds cs).map keepChar) := by
  have hdrop : ∀ (p p' : Char → Bool), (∀ c, p (keepChar c) = p' c) → ∀ cs : List Char,
      trimMatches p (String.ofList (cs.map keepChar)) =
        String.ofList (((cs.dropWhile p').rdropWhile p').map keepChar) := by
    intro p p' hp cs
    have hcomp : p ∘ keepChar = p' := funext hp
    unfold trimMatches List.rdropWhile
    rw [String.toList_ofList, List.dropWhile_map, hcomp, ← List.map_reverse, List.dropWhile_map,
      hcomp, List.map_reverse]
  unfold trim
  rw [hdrop _ _ keepChar_whitespace, hdrop _ _ keepChar_dot, hdrop _ _ keepChar_whitespace]
  unfold offEnds offFront
  rw [offBack_eq]
  simp only [dropWhile_rdropWhile]

theorem cleanFilename_eq (name : String) :
    cleanFilename name = String.ofList ((offEnds (cutName name)).map keepChar) := by
  unfold cleanFilename
  show trim (trimMatches _ (trim (String.ofList ((trim (trimMatches _ (trim (String.ofList
    ((lastSegment name.toList).map keepChar))))).toList.take maxFilenameLen)))) = _
  rw [trimDots_map, String.toList_ofList, ← List.map_take, trimDots_map]
  rfl

/-! ### Safe names -/

/-- A name that is safe to store a file under. -/
structure SafeName (name : String) : Prop where
  nonempty : name.toList ≠ []
  short : name.length ≤ 120
  chars : ∀ c ∈ name.toList, SafeChar c
  segment : '/' ∉ name.toList ∧ '\\' ∉ name.toList
  spaces : name.toList.head? ≠ some ' ' ∧ name.toList.getLast? ≠ some ' '
  dots : name.toList.head? ≠ some '.' ∧ name.toList.getLast? ≠ some '.'
  notDots : name ≠ "." ∧ name ≠ ".."

/-- Of a text with safe characters the ends decide. -/
theorem safeName_iff {cs : List Char} (hne : cs ≠ []) (hlen : cs.length ≤ 120)
    (hchars : ∀ c ∈ cs, SafeChar c) (hspaces : cs.head? ≠ some ' ' ∧ cs.getLast? ≠ some ' ') :
    SafeName (String.ofList cs) ↔ cs.head? ≠ some '.' ∧ cs.getLast? ≠ some '.' := by
  constructor
  · intro h
    simpa using h.dots
  · intro hdots
    have hseparator : ∀ c, ¬ SafeChar c → c ∉ cs := fun c hc hmem => hc (hchars c hmem)
    have hother : ∀ name : String, name.toList.head? = some '.' → String.ofList cs ≠ name := by
      rintro name hhead rfl
      rw [String.toList_ofList] at hhead
      exact hdots.1 hhead
    refine ⟨?_, ?_, ?_, ?_, ?_, ?_, hother "." rfl, hother ".." rfl⟩
    · rw [String.toList_ofList]
      exact hne
    · rw [String.length_ofList]
      exact hlen
    · rw [String.toList_ofList]
      exact hchars
    · rw [String.toList_ofList]
      exact ⟨hseparator '/' (by decide), hseparator '\\' (by decide)⟩
    · rw [String.toList_ofList]
      exact hspaces
    · rw [String.toList_ofList]
      exact hdots

theorem fallback_safe (index : UInt64) : SafeName s!"attachment-{index.toNat}" := by
  have htext : s!"attachment-{index.toNat}" =
      String.ofList ("attachment-".toList ++ Nat.toDigits 10 index.toNat) := by
    rw [String.ofList_append, String.ofList_toList]
    simp [toString, Nat.repr]
  have hdigits : ∀ c ∈ Nat.toDigits 10 index.toNat, c.isDigit := fun c hc =>
    Nat.isDigit_of_mem_toDigits (by decide) (by decide) hc
  have hlen := Nat.toDigits_length 10 index.toNat 20 (by decide)
    (lt_trans index.toNat_lt (by decide))
  have hlast : ∀ c, ("attachment-".toList ++ Nat.toDigits 10 index.toNat).getLast? = some c →
      c.isDigit := by
    intro c hc
    have hne : Nat.toDigits 10 index.toNat ≠ [] := by
      have := Nat.length_toDigits_pos (b := 10) (n := index.toNat)
      exact List.ne_nil_of_length_pos this
    rw [List.getLast?_append_of_ne_nil _ hne] at hc
    exact hdigits c (List.mem_of_getLast? hc)
  have hends : ∀ c : Char, c.isDigit = false →
      ("attachment-".toList ++ Nat.toDigits 10 index.toNat).getLast? ≠ some c := by
    intro c hc h
    rw [hlast c h] at hc
    exact absurd hc (by decide)
  rw [htext, safeName_iff]
  · exact ⟨by simp, hends '.' rfl⟩
  · simp
  · rw [List.length_append]
    have : "attachment-".toList.length = 11 := rfl
    omega
  · intro c hc
    rcases List.mem_append.mp hc with hc | hc
    · have hsafe : "attachment-".toList.all (fun c => decide (SafeChar c)) := by decide
      exact of_decide_eq_true (List.all_eq_true.mp hsafe c hc)
    · exact Or.inl (by simp [Char.isAlphanum, hdigits c hc])
  · exact ⟨by simp, hends ' ' rfl⟩

/-- What `sanitize_filename` gives is safe exactly if the name is absent, or has no second run of dots
left at either end after the first was taken off and the name was cut. -/
theorem sanitize_filename_safe (raw : Option String) (index : UInt64) :
    SafeName (sanitizeFilename raw index.toNat) ↔
      ∀ name, raw = some name →
        ¬ LeavesDot (cutName name) ∧ ¬ LeavesDot (cutName name).reverse := by
  cases raw with
  | none =>
      refine iff_of_true (fallback_safe index) fun name h => ?_
      exact absurd h (by simp)
  | some name =>
      have hdots : ¬ LeavesDot (cutName name) ∧ ¬ LeavesDot (cutName name).reverse ↔
          (offEnds (cutName name)).head? ≠ some '.' ∧ (offEnds (cutName name)).getLast? ≠ some '.' := by
        rw [← offEnds_dot, ← offEnds_dot, offEnds_reverse, List.head?_reverse]
      have hall : (∀ name', some name = some name' →
          ¬ LeavesDot (cutName name') ∧ ¬ LeavesDot (cutName name').reverse) ↔
          ¬ LeavesDot (cutName name) ∧ ¬ LeavesDot (cutName name).reverse := by simp
      rw [hall, hdots]
      show SafeName (if (cleanFilename name).isEmpty then s!"attachment-{index.toNat}"
        else cleanFilename name) ↔ _
      rw [cleanFilename_eq]
      by_cases hnil : offEnds (cutName name) = []
      · rw [hnil]
        exact iff_of_true (fallback_safe index) (by simp)
      · have hempty : (String.ofList ((offEnds (cutName name)).map keepChar)).isEmpty = false := by
          simpa [← Bool.not_eq_true, String.isEmpty_iff] using hnil
        have hspaces : (offEnds (cutName name)).head? ≠ some ' ' ∧
            (offEnds (cutName name)).getLast? ≠ some ' ' := by
          refine ⟨offEnds_space _, ?_⟩
          rw [← List.head?_reverse, ← offEnds_reverse]
          exact offEnds_space _
        have hdot : ∀ o : Option Char, o.map keepChar = some '.' ↔ o = some '.' :=
          keepChar_some fun c => by simpa using congrArg (· = true) (keepChar_dot c)
        have hspace : ∀ o : Option Char, o.map keepChar = some ' ' ↔ o = some ' ' :=
          keepChar_some keepChar_space
        rw [hempty, if_neg Bool.false_ne_true, safeName_iff, List.head?_map, List.getLast?_map]
        · simp only [ne_eq, hdot]
        · simpa using hnil
        · rw [List.length_map]
          have hlen := offEnds_length (cutName name)
          have htake : (cutName name).length ≤ 120 := List.length_take_le _ _
          omega
        · intro c hc
          obtain ⟨d, -, rfl⟩ := List.mem_map.mp hc
          exact keepChar_safe d
        · rw [List.head?_map, List.getLast?_map]
          simpa only [ne_eq, hspace] using hspaces

/-- A name of dots and spaces comes out as a directory. -/
theorem dots_survive : ¬ SafeName (sanitizeFilename (some ". . .. . .") 0) ∧
    sanitizeFilename (some ". . .. . .") 0 = ".." := by
  have hname : sanitizeFilename (some ". . .. . .") 0 = ".." := by decide +kernel
  exact ⟨fun h => (hname ▸ h).notDots.2 rfl, hname⟩

end Microticket

import Microticket.TextLayout
import Mathlib.Tactic.NormNum.Basic

/-! # Wrapped text

`wrap_line` fills a line with words and `break_word` fills one with characters; both go on with what
does not fit.  The state of either loop is the full lines and the pending one, and `Filled` is its
invariant: nothing visible is lost, and each line fits.  `wrapLine_filled` is the result. -/

namespace Microticket.Pdf

open RustText

/-! ### Visible characters -/

/-- The characters without the whitespace. -/
def visible (cs : List Char) : List Char := cs.filter fun c => !isWhitespace c

@[simp] theorem visible_append (cs ds : List Char) :
    visible (cs ++ ds) = visible cs ++ visible ds := List.filter_append ..

/-- The runs without `p` hold every character without `p`, in order. -/
theorem flatten_runs (p : Char → Bool) (cs : List Char) :
    (runs p cs).flatten = cs.filter fun c => !p c := by
  fun_induction runs p cs with
  | case1 => rfl
  | case2 c cs hc ih => simp [hc, ih]
  | case3 c hc => simp [hc]
  | case4 c hc d ds hd ih => simp_all
  | case5 c hc d ds hd hnone ih => simp_all
  | case6 c hc d ds hd run rest hrest ih => simp_all

theorem runs_ne_nil (p : Char → Bool) (cs : List Char) : ∀ run ∈ runs p cs, run ≠ [] := by
  fun_induction runs p cs with
  | case1 => simp
  | case2 c cs hc ih => exact ih
  | case3 c hc => simp
  | case4 c hc d ds hd ih => simpa using ih
  | case5 c hc d ds hd hnone ih => simp_all
  | case6 c hc d ds hd run rest hrest ih => simp_all

/-- The words hold what is visible. -/
theorem splitWhitespace_flatMap (text : String) :
    (splitWhitespace text).flatMap String.toList = visible text.toList := by
  unfold splitWhitespace visible
  rw [← flatten_runs, List.flatMap_map]
  simp [List.flatMap_def]

@[simp] theorem visible_visible (cs : List Char) : visible (visible cs) = visible cs := by
  simp [visible, List.filter_filter]

theorem splitWhitespace_ne_nil (text : String) : ∀ word ∈ splitWhitespace text, word ≠ "" := by
  intro word hword hempty
  obtain ⟨run, hrun, rfl⟩ := List.mem_map.mp hword
  apply runs_ne_nil isWhitespace text.toList run hrun
  simpa using hempty

/-- A text without anything visible has no words. -/
theorem splitWhitespace_eq_nil {text : String} (h : visible text.toList = []) :
    splitWhitespace text = [] := by
  rw [← splitWhitespace_flatMap, List.flatMap_eq_nil_iff] at h
  apply List.eq_nil_iff_forall_not_mem.mpr
  intro word hword
  apply splitWhitespace_ne_nil text word hword
  exact String.toList_inj.mp (h word hword)

/-! ### The loops -/

/-- Full lines that hold what is visible of `text`, each of them `ok`. -/
structure Filled (ok : String → Prop) (text : List Char) (lines : List String) : Prop where
  holds : visible (lines.flatMap String.toList) = visible text
  each : ∀ line ∈ lines, line ≠ "" ∧ ok line

/-- The lines of a loop and its pending line. -/
structure Filling (ok : String → Prop) (text : List Char) (state : List String × String) : Prop where
  holds : visible (state.1.flatMap String.toList ++ state.2.toList) = visible text
  each : ∀ line ∈ state.1, line ≠ "" ∧ ok line
  pending : state.2 ≠ "" → ok state.2

section
variable {ok : String → Prop} {text : List Char}

theorem Filling.start : Filling ok [] ([], "") where
  holds := rfl
  each := by simp
  pending h := absurd rfl h

/-- What each step adds is added by the loop. -/
theorem Filling.foldl {α : Type} {chars : α → List Char} {P : α → Prop}
    {step : List String × String → α → List String × String}
    (hstep : ∀ text state a, P a → Filling ok text state →
      Filling ok (text ++ chars a) (step state a)) :
    ∀ {as : List α} {state : List String × String} {text : List Char}, (∀ a ∈ as, P a) →
      Filling ok text state → Filling ok (text ++ as.flatMap chars) (as.foldl step state)
  | [], state, text, _, h => by simpa using h
  | a :: as, state, text, hall, h => by
      have hrest := Filling.foldl hstep (fun b hb => hall b (List.mem_cons_of_mem _ hb))
        (hstep text state a (hall a List.mem_cons_self) h)
      rw [List.flatMap_cons, ← List.append_assoc]
      exact hrest

variable {lines : List String} {current : String}

/-- The pending line goes on. -/
theorem Filling.extend (h : Filling ok text (lines, current)) {candidate : String}
    {added : List Char}
    (hadded : visible candidate.toList = visible current.toList ++ visible added)
    (hok : ok candidate) : Filling ok (text ++ added) (lines, candidate) where
  holds := by
    have htext := h.holds
    rw [visible_append] at htext ⊢
    rw [visible_append, hadded, ← List.append_assoc, htext]
  each := h.each
  pending _ := hok

/-- The pending line is full, if there is one. -/
theorem Filling.flush (h : Filling ok text (lines, current)) :
    Filled ok text (if current.isEmpty then lines else lines ++ [current]) where
  holds := by
    have htext := h.holds
    split
    · rename_i hempty
      rw [String.isEmpty_iff.mp hempty] at htext
      simpa using htext
    · simpa using htext
  each := by
    intro line hline
    split at hline
    · exact h.each line hline
    · rename_i hempty
      have hne : current ≠ "" := fun heq => hempty (String.isEmpty_iff.mpr heq)
      rcases List.mem_append.mp hline with hline | hline
      · exact h.each line hline
      · obtain rfl := List.mem_singleton.mp hline
        exact ⟨hne, h.pending hne⟩

/-- A new pending line after full lines. -/
theorem Filled.next (h : Filled ok text lines) (line : String) (hok : line ≠ "" → ok line) :
    Filling ok (text ++ line.toList) (lines, line) where
  holds := by rw [visible_append, visible_append, h.holds]
  each := h.each
  pending := hok

theorem Filled.append (h : Filled ok text lines) {more : List Char} {others : List String}
    (hmore : Filled ok more others) : Filled ok (text ++ more) (lines ++ others) where
  holds := by rw [List.flatMap_append, visible_append, visible_append, h.holds, hmore.holds]
  each line hline := (List.mem_append.mp hline).elim (h.each line) (hmore.each line)

end

/-! ### The wrapped line -/

section
variable (metrics : Metrics) (maxWidth size : ℚ)

/-- A line that is not too wide, or cannot be narrower. -/
def Fits (line : String) : Prop :=
  metrics.width line size false ≤ maxWidth ∨ line.toList.length = 1

variable {metrics maxWidth size}

/-- The chunks of a word. -/
theorem breakWord_filled (word : String) :
    Filled (Fits metrics maxWidth size) word.toList (breakWord metrics word maxWidth size) := by
  unfold breakWord
  generalize hstate : word.toList.foldl _ ([], "") = state
  have hloop : Filling (Fits metrics maxWidth size) ([] ++ word.toList.flatMap fun c => [c])
      state := by
    rw [← hstate]
    refine Filling.foldl (P := fun _ => True) ?_ (fun _ _ => trivial) Filling.start
    rintro text ⟨chunks, current⟩ c - h
    dsimp only
    split
    · rename_i hfits
      apply h.extend
      · simp
      · rw [Bool.or_eq_true, decide_eq_true_eq] at hfits
        rcases hfits with hempty | hfits
        · right
          rw [String.isEmpty_iff.mp hempty]
          simp
        · exact .inl hfits
    · rename_i hfull
      have hne : current.isEmpty = false := by
        rw [Bool.or_eq_true, not_or, Bool.not_eq_true] at hfull
        exact hfull.1
      have hchunks := h.flush
      rw [hne] at hchunks
      have hnext := hchunks.next (String.ofList [c]) fun _ => .inr (by simp)
      simpa using hnext
  obtain ⟨chunks, current⟩ := state
  have hchunks := hloop.flush
  simpa using hchunks

/-- A text without words is one empty line. -/
theorem wrapLine_of_no_words {text : String} (h : splitWhitespace text = []) :
    wrapLine metrics text maxWidth size = [""] := by
  unfold wrapLine
  rw [h]
  rfl

variable (metrics maxWidth size) in
/-- The lines of a text with words. -/
theorem wrapLine_filled {text : String} (h : splitWhitespace text ≠ []) :
    Filled (Fits metrics maxWidth size) text.toList (wrapLine metrics text maxWidth size) := by
  unfold wrapLine
  generalize hstate : (splitWhitespace text).foldl _ (([] : List String), "") = state
  have hloop : Filling (Fits metrics maxWidth size)
      ([] ++ (splitWhitespace text).flatMap String.toList) state := by
    rw [← hstate]
    refine Filling.foldl (P := fun word => word ≠ "") ?_ (splitWhitespace_ne_nil text) Filling.start
    rintro text ⟨lines, current⟩ word hword h
    dsimp only
    split
    · -- an over-long word: the pending line is full, and the chunks of the word follow
      have hchunks := h.flush.append (breakWord_filled word)
      have hnext := hchunks.next "" fun hne => absurd rfl hne
      simpa using hnext
    · rename_i hnarrow
      have hfits : Fits metrics maxWidth size word := .inl (not_lt.mp hnarrow)
      by_cases hempty : current.isEmpty
      · rw [hempty]
        obtain rfl := String.isEmpty_iff.mp hempty
        exact h.extend (by simp [visible]) hfits
      · rw [if_neg hempty]
        split
        · rename_i hcandidate
          apply h.extend
          · have hspace : visible [' '] = [] := by decide
            have hlist : (toString current ++ toString " " ++ toString word).toList =
                current.toList ++ [' '] ++ word.toList := by
              rw [String.toList_append, String.toList_append]
              rfl
            rw [hlist, visible_append, visible_append, hspace, List.append_nil]
          · left
            simpa [hempty] using hcandidate
        · have hlines := h.flush
          rw [if_neg hempty] at hlines
          exact hlines.next word fun _ => hfits
  obtain ⟨lines, current⟩ := state
  have hlines := hloop.flush
  have hheld : Filled (Fits metrics maxWidth size) text.toList
      (if current.isEmpty then lines else lines ++ [current]) :=
    ⟨by rw [hlines.holds, List.nil_append, splitWhitespace_flatMap, visible_visible], hlines.each⟩
  dsimp only
  by_cases hempty : current.isEmpty
  · rw [if_pos hempty] at hheld
    have hne : lines ≠ [] := by
      rintro rfl
      exact h (splitWhitespace_eq_nil hheld.holds.symm)
    rw [if_neg (by simp [hempty, hne])]
    exact hheld
  · rw [if_neg hempty] at hheld
    rw [if_pos (by simp [hempty])]
    exact hheld

variable (metrics size) in
/-- Wrapping loses nothing visible, every line fits, and there is no empty line but the one of a text
without words. -/
theorem wrapLine_lossless (hwidth : 0 < maxWidth) (text : String) :
    visible ((wrapLine metrics text maxWidth size).flatMap String.toList) = visible text.toList ∧
    (∀ line ∈ wrapLine metrics text maxWidth size, Fits metrics maxWidth size line) ∧
    (splitWhitespace text ≠ [] → ∀ line ∈ wrapLine metrics text maxWidth size, line ≠ "") ∧
    (splitWhitespace text = [] → wrapLine metrics text maxWidth size = [""]) := by
  by_cases h : splitWhitespace text = []
  · have hlines : wrapLine metrics text maxWidth size = [""] := wrapLine_of_no_words h
    have hvisible : visible text.toList = [] := by
      rw [← splitWhitespace_flatMap, h]
      rfl
    rw [hlines]
    refine ⟨hvisible.symm, ?_, fun hne => absurd h hne, fun _ => rfl⟩
    intro line hline
    obtain rfl := List.mem_singleton.mp hline
    left
    simpa [Metrics.width] using hwidth.le
  · have hlines := wrapLine_filled metrics maxWidth size h
    exact ⟨hlines.holds, fun line hline => (hlines.each line hline).2,
      fun _ line hline => (hlines.each line hline).1, fun hnil => absurd hnil h⟩

end

/-- Characters of width one. -/
def monospaced : Metrics := ⟨fun _ _ => 1, fun _ _ => by norm_num⟩

theorem wrapLine_lossless_sample :
    visible ((wrapLine monospaced "to an overlong word" 4 1).flatMap String.toList) =
      visible "to an overlong word".toList ∧
    (splitWhitespace " " = [] → wrapLine monospaced " " 4 1 = [""]) :=
  ⟨(wrapLine_lossless monospaced 1 (by norm_num)
      "to an overlong word").1,
    (wrapLine_lossless monospaced 1 (by norm_num) " ").2.2.2⟩

end Microticket.Pdf

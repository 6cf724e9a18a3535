import Microticket.Pipeline

/-! # The ids that a mail threads by

`header_value_string` joins the ids of a header into one text, and `candidate_message_ids` takes them
apart again: `References` at every space, but `In-Reply-To` not at all.  So the ids of both headers are
all tried exactly if `In-Reply-To` has at most one (`threading_ids`).

What `as_text` of `mail-parser` answers for a list of texts is a parameter here, `listText`: nothing,
as in `headerValueString`, or the last one.  In the second case the list branch of
`header_value_string` is not reached, and only the last id of each header is tried. -/

namespace Microticket

open RustText

/-! ### Words -/

section words
variable {p : Char → Bool}

theorem runs_cons_true {c : Char} {rest : List Char} (hc : p c = true) :
    runs p (c :: rest) = runs p rest := by
  rw [runs.eq_def]
  simp only [hc, if_true]

/-- A word is a run. -/
theorem runs_word {word : List Char} (hne : word ≠ []) (hword : ∀ c ∈ word, p c = false) :
    runs p word = [word] := by
  induction word with
  | nil => exact absurd rfl hne
  | cons c word ih =>
      have hc := hword c List.mem_cons_self
      cases word with
      | nil => simp [runs, hc]
      | cons d word =>
          have hd := hword d (by simp)
          have hrest := ih (by simp) fun e he => hword e (List.mem_cons_of_mem _ he)
          rw [runs, if_neg (by simp [hc])]
          simp only [hd, Bool.false_eq_true, if_false, hrest]

/-- A separator ends the run of a word. -/
theorem runs_append {word rest : List Char} {sep : Char} (hne : word ≠ [])
    (hword : ∀ c ∈ word, p c = false) (hsep : p sep = true) :
    runs p (word ++ sep :: rest) = word :: runs p rest := by
  induction word with
  | nil => exact absurd rfl hne
  | cons c word ih =>
      have hc := hword c List.mem_cons_self
      cases word with
      | nil =>
          rw [List.cons_append, List.nil_append, runs, if_neg (by simp [hc])]
          simp only [hsep, if_true, runs_cons_true hsep]
      | cons d word =>
          have hd := hword d (by simp)
          have hrest := ih (by simp) fun e he => hword e (List.mem_cons_of_mem _ he)
          rw [List.cons_append] at hrest ⊢
          rw [List.cons_append, runs, if_neg (by simp [hc])]
          simp only [hd, Bool.false_eq_true, if_false, hrest]

end words

/-- A text without whitespace. -/
def Solid (s : String) : Prop := ∀ c ∈ s.toList, isWhitespace c = false

/-- Words that are joined by spaces come apart again. -/
theorem splitWhitespace_intercalate {words : List String}
    (hwords : ∀ word ∈ words, word.toList ≠ [] ∧ Solid word) :
    splitWhitespace (" ".intercalate words) = words := by
  have hruns : ∀ words : List String, words ≠ [] → (∀ word ∈ words, word.toList ≠ [] ∧ Solid word) →
      runs isWhitespace (" ".intercalate words).toList = words.map String.toList := by
    intro words hne hwords
    induction words with
    | nil => exact absurd rfl hne
    | cons word words ih =>
        obtain ⟨hword, hsolid⟩ := hwords word List.mem_cons_self
        cases words with
        | nil => exact (congrArg _ (congrArg _ String.intercalate_singleton)).trans (runs_word hword hsolid)
        | cons next words =>
            have hrest := ih (by simp) fun w hw => hwords w (List.mem_cons_of_mem _ hw)
            rw [String.intercalate_cons_cons, String.append_assoc, String.toList_append,
              String.toList_append]
            show runs isWhitespace (word.toList ++ ' ' :: (" ".intercalate (next :: words)).toList) = _
            rw [runs_append hword hsolid rfl, hrest]
            rfl
  cases words with
  | nil => rfl
  | cons word words =>
      unfold splitWhitespace
      rw [hruns _ (by simp) hwords, List.map_map]
      simp [Function.comp_def]

/-! ### Headers -/

/-- The ids of a header. -/
def HeaderValue.ids : HeaderValue → List String
  | .text id => [id]
  | .textList ids => ids
  | .other => []

/-- An id between brackets. -/
def bracketed (id : String) : String := s!"<{id}>"

theorem bracketed_toList (id : String) : (bracketed id).toList = '<' :: id.toList ++ ['>'] := by
  show ((toString "<" ++ toString id) ++ toString ">").toList = _
  simp [toString]

theorem bracketed_inj {id id' : String} (h : bracketed id = bracketed id') : id = id' := by
  have hlist := congrArg String.toList h
  rw [bracketed_toList, bracketed_toList] at hlist
  exact String.toList_inj.mp (List.append_cancel_right (List.cons_eq_cons.mp hlist).2)

theorem bracketed_solid {id : String} (hid : Solid id) :
    (bracketed id).toList ≠ [] ∧ Solid (bracketed id) := by
  unfold Solid
  rw [bracketed_toList]
  refine ⟨by simp, fun c hc => ?_⟩
  rw [List.mem_append, List.mem_cons, List.mem_singleton] at hc
  rcases hc with (rfl | hc) | rfl
  · rfl
  · exact hid c hc
  · rfl

theorem trim_bracketed (id : String) : trim (bracketed id) = bracketed id := by
  refine trimMatches_ends (c := '<') (d := '>') ?_ ?_ rfl rfl
  · simp [bracketed_toList]
  · rw [bracketed_toList]
    exact List.getLast?_concat

/-- Joined ids begin with a bracket. -/
theorem joined_head? {ids : List String} (hne : ids ≠ []) :
    (" ".intercalate (ids.map bracketed)).toList.head? = some '<' := by
  cases ids with
  | nil => exact absurd rfl hne
  | cons id ids =>
      cases ids with
      | nil => simp [bracketed_toList]
      | cons next ids =>
          rw [List.map_cons, List.map_cons, String.intercalate_cons_cons, String.toList_append,
            String.toList_append, bracketed_toList]
          rfl

/-- Joined ids begin and end with a bracket. -/
theorem trim_joined {ids : List String} :
    trim (" ".intercalate (ids.map bracketed)) = " ".intercalate (ids.map bracketed) := by
  have hlast : ∀ ids : List String, ids ≠ [] →
      (" ".intercalate (ids.map bracketed)).toList.getLast? = some '>' := by
    intro ids hne
    induction ids with
    | nil => exact absurd rfl hne
    | cons id ids ih =>
        cases ids with
        | nil =>
            rw [List.map_singleton, String.intercalate_singleton, bracketed_toList]
            exact List.getLast?_concat
        | cons next ids =>
            have hrest := ih (by simp)
            rw [List.map_cons, List.map_cons, String.intercalate_cons_cons, String.toList_append,
              List.getLast?_append, ← List.map_cons, hrest]
            rfl
  cases ids with
  | nil => rfl
  | cons id ids =>
      exact trimMatches_ends (joined_head? (by simp)) (hlast _ (by simp)) rfl rfl

/-- `header_value_string`, where `listText` is what `as_text` answers for a list. -/
def headerValueStringOf (listText : List String → Option String) : HeaderValue → Option String
  | .text id => some (bracketed id)
  | .textList ids => match listText ids with
    | some id => some (bracketed id)
    | none => if ids.isEmpty then none else some (" ".intercalate (ids.map bracketed))
  | .other => none

theorem headerValueString_eq : headerValueString = headerValueStringOf fun _ => none := by
  funext value
  cases value <;> rfl

/-- What is to be tried: the ids of `In-Reply-To` in order, then those of `References` from the last to
the first, each once. -/
def threadingIds (inReplyTo references : List String) : List String :=
  ((inReplyTo ++ references.reverse).map bracketed).eraseDups

/-! ### Candidates -/

/-- The loop over `References` adds the ids that are not listed yet, each once. -/
theorem addReferences_eq {ids : List String} (hids : ∀ id ∈ ids, id.toList ≠ [] ∧ trim id = id)
    (out : List String) : addReferences ids out = out ++ (ids.removeAll out).eraseDups := by
  induction ids generalizing out with
  | nil => simp [addReferences]
  | cons id ids ih =>
      obtain ⟨hne, htrim⟩ := hids id List.mem_cons_self
      have hrest := ih fun id' hid' => hids id' (List.mem_cons_of_mem _ hid')
      have hempty : id.isEmpty = false := by
        rw [← Bool.not_eq_true, String.isEmpty_iff]
        exact fun hnil => hne (String.toList_eq_nil_iff.mpr hnil)
      rw [addReferences, htrim, hrest]
      by_cases hmem : id ∈ out
      · simp [hempty, hmem, List.cons_removeAll]
      · have hfilter : ids.removeAll (out ++ [id]) = (ids.removeAll out).filter fun b => !b == id := by
          unfold List.removeAll
          rw [List.filter_filter]
          refine List.filter_congr fun b _ => ?_
          by_cases hb : b = id <;> simp [hb]
        simp [hempty, hmem, List.cons_removeAll, hfilter, List.eraseDups_cons]

/-- The ids of a header that its text holds. -/
def HeaderValue.taken (listText : List String → Option String) : HeaderValue → List String
  | .text id => [id]
  | .textList ids => match listText ids with
    | some id => [id]
    | none => ids
  | .other => []

section candidates
variable {listText : List String → Option String} {inReplyTo references : HeaderValue}

/-- The text of a header. -/
theorem headerValueStringOf_eq (value : HeaderValue) : headerValueStringOf listText value =
    if value.taken listText = [] then none
    else some (" ".intercalate ((value.taken listText).map bracketed)) := by
  cases value with
  | text id => simp [headerValueStringOf, HeaderValue.taken]
  | other => rfl
  | textList ids =>
      cases hlist : listText ids with
      | some id => simp [headerValueStringOf, HeaderValue.taken, hlist]
      | none => simp [headerValueStringOf, HeaderValue.taken, hlist]

/-- The text of `In-Reply-To` is one candidate, and each word of that of `References` another. -/
theorem candidateMessageIds_eq (hsolid : ∀ id ∈ references.taken listText, Solid id) :
    candidateMessageIds (headerValueStringOf listText inReplyTo)
      (headerValueStringOf listText references) =
    ((if inReplyTo.taken listText = [] then []
      else [" ".intercalate ((inReplyTo.taken listText).map bracketed)]) ++
      (references.taken listText).reverse.map bracketed).eraseDups := by
  have hloop : ∀ out : List String, out.length ≤ 1 →
      (match headerValueStringOf listText references with
        | some refs => addReferences (splitWhitespace refs).reverse out
        | none => out) =
      (out ++ (references.taken listText).reverse.map bracketed).eraseDups := by
    intro out hlen
    have hout : out.eraseDups = out := by
      match out, hlen with
      | [], _ => rfl
      | [a], _ => rfl
    rw [headerValueStringOf_eq, List.eraseDups_append, hout]
    by_cases hnone : references.taken listText = []
    · rw [if_pos hnone, hnone]
      simp
    · have hwords : ∀ word ∈ (references.taken listText).map bracketed,
          word.toList ≠ [] ∧ Solid word := by
        intro word hword
        obtain ⟨id, hid, rfl⟩ := List.mem_map.mp hword
        exact bracketed_solid (hsolid id hid)
      rw [if_neg hnone]
      show addReferences (splitWhitespace _).reverse out = _
      rw [splitWhitespace_intercalate hwords, addReferences_eq, List.map_reverse]
      intro id hid
      obtain ⟨hne, -⟩ := hwords id (List.mem_reverse.mp hid)
      obtain ⟨id', -, rfl⟩ := List.mem_map.mp (List.mem_reverse.mp hid)
      exact ⟨hne, trim_bracketed id'⟩
  unfold candidateMessageIds
  by_cases hnone : inReplyTo.taken listText = []
  · have hparent : headerValueStringOf listText inReplyTo = none := by
      rw [headerValueStringOf_eq, if_pos hnone]
    rw [hparent, if_pos hnone]
    exact hloop [] (by simp)
  · have hparent : headerValueStringOf listText inReplyTo =
        some (" ".intercalate ((inReplyTo.taken listText).map bracketed)) := by
      rw [headerValueStringOf_eq, if_neg hnone]
    have hnonempty : (" ".intercalate ((inReplyTo.taken listText).map bracketed)).isEmpty = false := by
      rw [← Bool.not_eq_true, String.isEmpty_iff]
      intro hnil
      have hhead := joined_head? hnone
      rw [hnil] at hhead
      exact absurd hhead (by simp)
    rw [hparent, if_neg hnone]
    simp only [trim_joined, hnonempty, Bool.false_eq_true, if_false]
    exact hloop _ (by simp)

end candidates

/-! ### Every id is tried -/

theorem eraseDups_constant {α : Type*} [BEq α] [LawfulBEq α] {b : α} {xs : List α} (hne : xs ≠ [])
    (hxs : ∀ x ∈ xs, x = b) : xs.eraseDups = [b] := by
  cases xs with
  | nil => exact absurd rfl hne
  | cons a xs =>
      have hnone : xs.filter (fun x => !x == a) = [] := by
        refine List.filter_eq_nil_iff.mpr fun x hx => ?_
        rw [hxs x (List.mem_cons_of_mem _ hx), hxs a List.mem_cons_self]
        simp
      rw [List.eraseDups_cons, hnone, hxs a List.mem_cons_self]
      rfl

/-- Against a list of at most two elements, only the first element and the members count. -/
theorem eraseDups_short {α : Type*} [BEq α] [LawfulBEq α] {xs ys : List α} (hshort : ys.length ≤ 2) :
    xs.eraseDups = ys.eraseDups ↔ xs.head? = ys.head? ∧ ∀ x, x ∈ xs ↔ x ∈ ys := by
  have hhead : ∀ zs : List α, zs.eraseDups.head? = zs.head? := by
    intro zs
    cases zs with
    | nil => rfl
    | cons z zs => rw [List.eraseDups_cons]; rfl
  constructor
  · intro heq
    refine ⟨by rw [← hhead xs, heq, hhead], fun x => ?_⟩
    rw [← List.mem_eraseDups, heq, List.mem_eraseDups]
  · rintro ⟨hfirst, hmem⟩
    cases ys with
    | nil => rw [List.head?_nil, List.head?_eq_none_iff] at hfirst; rw [hfirst]
    | cons a ys =>
        obtain ⟨xs, rfl⟩ := List.head?_eq_some_iff.mp hfirst
        rw [List.eraseDups_cons, List.eraseDups_cons]
        -- what is left of both lists has the same members, and there is at most one
        have hrest : ∀ x, x ∈ xs.filter (fun x => !x == a) ↔ x ∈ ys.filter (fun x => !x == a) := by
          intro x
          have hx := hmem x
          by_cases hxa : x = a <;> simp_all
        have hlen : (ys.filter fun x => !x == a).length ≤ 1 := by
          have := List.length_filter_le (fun x => !x == a) ys
          rw [List.length_cons] at hshort
          omega
        generalize (xs.filter fun x => !x == a) = xs' at hrest ⊢
        generalize (ys.filter fun x => !x == a) = ys' at hrest hlen ⊢
        match ys', hlen with
        | [], _ =>
            have hnil : xs' = [] := List.eq_nil_iff_forall_not_mem.mpr fun x hx => by
              simpa using (hrest x).mp hx
            rw [hnil]
        | [b], _ =>
            have hb : b ∈ xs' := (hrest b).mpr List.mem_cons_self
            rw [eraseDups_constant (List.ne_nil_of_mem hb) fun x hx =>
              List.mem_singleton.mp ((hrest x).mp hx)]
            rfl

theorem tried_short {xs ys : List String} (hshort : ys.length ≤ 2) :
    (xs.map bracketed).eraseDups = (ys.map bracketed).eraseDups ↔
      xs.head? = ys.head? ∧ ∀ x, x ∈ xs ↔ x ∈ ys := by
  have hinj : Function.Injective bracketed := fun _ _ => bracketed_inj
  rw [eraseDups_short (by simpa using hshort), List.head?_map, List.head?_map,
    (Option.map_injective hinj).eq_iff]
  refine and_congr_right fun _ => ⟨fun hmem x => ?_, fun hmem x => ?_⟩
  · simpa [List.mem_map_of_injective hinj] using hmem (bracketed x)
  · simp [List.mem_map, hmem]

section tried
variable (inReplyTo references : HeaderValue)

/-- If lists have no text, the text of `In-Reply-To` is a candidate as it stands. -/
theorem tried_joined (hsolid : ∀ id ∈ inReplyTo.ids ++ references.ids, Solid id) :
    candidateMessageIds (headerValueString inReplyTo) (headerValueString references) =
      threadingIds inReplyTo.ids references.ids ↔ inReplyTo.ids.length ≤ 1 := by
  have htaken : ∀ value : HeaderValue, value.taken (fun _ => none) = value.ids := by
    intro value
    cases value <;> rfl
  rw [headerValueString_eq, candidateMessageIds_eq, htaken, htaken]
  · unfold threadingIds
    generalize inReplyTo.ids = irts at hsolid ⊢
    match irts with
    | [] => simp
    | [id] => simp
    | id :: next :: irts =>
        -- the joined text has a space, which no bracketed id has
        refine iff_of_false (fun heq => ?_) (by simp)
        rw [if_neg (by simp)] at heq
        have hjoined : " ".intercalate ((id :: next :: irts).map bracketed) ∈
            ((id :: next :: irts ++ references.ids.reverse).map bracketed).eraseDups := by
          rw [← heq, List.mem_eraseDups]
          exact List.mem_cons_self
        obtain ⟨id', hid', hword⟩ := List.mem_map.mp (List.mem_eraseDups.mp hjoined)
        have hspace := (bracketed_solid (hsolid id' (by simpa using hid'))).2 ' ' (by
          rw [hword, List.map_cons, List.map_cons, String.intercalate_cons_cons]
          simp)
        exact absurd hspace (by decide)
  · intro id hid
    rw [htaken] at hid
    exact hsolid id (List.mem_append_right _ hid)

/-- If the text of a list is its last text, at most one id of each header is tried. -/
theorem tried_last (hsolid : ∀ id ∈ inReplyTo.ids ++ references.ids, Solid id) :
    candidateMessageIds (headerValueStringOf List.getLast? inReplyTo)
        (headerValueStringOf List.getLast? references) =
      threadingIds inReplyTo.ids references.ids ↔
    inReplyTo.ids.head? = inReplyTo.ids.getLast? ∧ ∀ id ∈ inReplyTo.ids ++ references.ids,
      inReplyTo.ids.getLast? = some id ∨ references.ids.getLast? = some id := by
  have htaken : ∀ value : HeaderValue, value.taken List.getLast? = value.ids.getLast?.toList := by
    intro value
    cases value with
    | text id => rfl
    | other => rfl
    | textList ids =>
        cases hlast : ids.getLast? with
        | some id => simp [HeaderValue.taken, HeaderValue.ids, hlast]
        | none => simp [HeaderValue.taken, HeaderValue.ids, List.getLast?_eq_none_iff.mp hlast]
  rw [candidateMessageIds_eq, htaken, htaken]
  · unfold threadingIds
    generalize inReplyTo.ids = irts
    generalize references.ids = refs
    have hparent : (if irts.getLast?.toList = [] then []
        else [" ".intercalate (irts.getLast?.toList.map bracketed)]) =
        irts.getLast?.toList.map bracketed := by
      cases irts.getLast? <;> simp
    have hlen : (irts.getLast?.toList ++ refs.getLast?.toList).length ≤ 2 := by
      cases irts.getLast? <;> cases refs.getLast? <;> simp
    have hreverse : refs.getLast?.toList.reverse = refs.getLast?.toList := by
      cases refs.getLast? <;> rfl
    rw [hparent, hreverse, ← List.map_append, eq_comm, tried_short hlen]
    have hlast : ∀ id, irts.getLast? = some id ∨ refs.getLast? = some id →
        id ∈ irts ++ refs := by
      rintro id (hid | hid)
      · exact List.mem_append_left _ (List.mem_of_getLast? hid)
      · exact List.mem_append_right _ (List.mem_of_getLast? hid)
    refine and_congr ?_ ⟨fun hmem id hid => ?_, fun hmem id => ?_⟩
    · rw [List.head?_append, List.head?_append, List.head?_reverse]
      cases irts with
      | nil => simp
      | cons id irts =>
          obtain ⟨last, hid⟩ := Option.ne_none_iff_exists'.mp
            (mt List.getLast?_eq_none_iff.mp (List.cons_ne_nil id irts))
          simp [hid]
    · have := (hmem id).mp (by simpa using hid)
      simpa using this
    · have hid := hmem id
      have hid' := hlast id
      simp only [List.mem_append, List.mem_reverse, Option.mem_toList] at hid hid' ⊢
      exact ⟨hid, hid'⟩
  · intro id hid
    rw [htaken, Option.mem_toList] at hid
    exact hsolid id (List.mem_append_right _ (List.mem_of_getLast? hid))

/-- Whatever `as_text` answers for a list, some header with several ids is not tried in full: without
an answer exactly every `In-Reply-To` with more than one id, and with the last text exactly the headers
that name an id which is not the last of its header. -/
theorem threading_ids (hsolid : ∀ id ∈ inReplyTo.ids ++ references.ids, Solid id) :
    (candidateMessageIds (headerValueString inReplyTo) (headerValueString references) =
      threadingIds inReplyTo.ids references.ids ↔ inReplyTo.ids.length ≤ 1) ∧
    (candidateMessageIds (headerValueStringOf List.getLast? inReplyTo)
        (headerValueStringOf List.getLast? references) =
      threadingIds inReplyTo.ids references.ids ↔
    inReplyTo.ids.head? = inReplyTo.ids.getLast? ∧ ∀ id ∈ inReplyTo.ids ++ references.ids,
      inReplyTo.ids.getLast? = some id ∨ references.ids.getLast? = some id) :=
  ⟨tried_joined inReplyTo references hsolid, tried_last inReplyTo references hsolid⟩

/-- Two ids of `In-Reply-To` are not both tried. -/
theorem two_parents_lost :
    candidateMessageIds (headerValueString (.textList ["a", "b"])) (headerValueString .other) ≠
      threadingIds ["a", "b"] [] ∧
    candidateMessageIds (headerValueStringOf List.getLast? (.textList ["a", "b"]))
      (headerValueStringOf List.getLast? .other) ≠ threadingIds ["a", "b"] [] := by
  decide +kernel

theorem threading_ids_sample :
    (candidateMessageIds (headerValueString (.text "a"))
      (headerValueString (.textList ["r", "a"])) = threadingIds ["a"] ["r", "a"] ↔ 1 ≤ 1) ∧
    (candidateMessageIds (headerValueStringOf List.getLast? (.text "a"))
      (headerValueStringOf List.getLast? (.textList ["r", "a"])) = threadingIds ["a"] ["r", "a"] ↔
    some "a" = some "a" ∧ ∀ id ∈ ["a", "r", "a"], some "a" = some id ∨ some "a" = some id) :=
  threading_ids (.text "a") (.textList ["r", "a"]) (by
    have hids : ∀ id ∈ ["a", "r", "a"], ∀ c ∈ id.toList, isWhitespace c = false := by
      simp [isWhitespace]
    exact hids)

end tried

end Microticket

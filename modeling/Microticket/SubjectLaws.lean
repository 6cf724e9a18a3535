import Microticket.StaffNotify
import Microticket.SubjectTags

/-! # The laws of the subject tag

`parse_subject_tag` finds the tag that `tag_subject` stamps, wherever it stands (`subject_tag_laws`).
The code scans with byte offsets, and slices two bytes behind every `[#`; `scanFrom` is this scan,
which stops where a slice would cut a character, and it never does.

The subject of a notice to staff has the name of the instance, the number and the subject of the
ticket between brackets of its own, so it has a tag exactly if one of the two texts brings it
(`staff_subject`). -/

namespace Microticket

open RustText

/-! ### The scan on byte offsets -/

/-- `&s[start..]`; `none` where it panics. -/
def sliceFrom : ℕ → List Char → Option (List Char)
  | 0, cs => some cs
  | _ + 1, [] => none
  | n + 1, c :: cs => if c.utf8Size ≤ n + 1 then sliceFrom (n + 1 - c.utf8Size) cs else none

/-- `str::find("[#")`. -/
def findOpening : List Char → Option ℕ
  | [] => none
  | '[' :: '#' :: _ => some 0
  | c :: rest => (findOpening rest).map fun start => start + c.utf8Size

theorem sliceFrom_length {n : ℕ} {cs inner : List Char} (h : sliceFrom n cs = some inner)
    (hn : 0 < n) : inner.length < cs.length := by
  induction cs generalizing n with
  | nil =>
      cases n with
      | zero => omega
      | succ n => cases h
  | cons c cs ih =>
      cases n with
      | zero => omega
      | succ n =>
          rw [sliceFrom] at h
          split at h
          · rcases Nat.eq_zero_or_pos (n + 1 - c.utf8Size) with hzero | hpos
            · rw [hzero, sliceFrom, Option.some.injEq] at h
              rw [← h, List.length_cons]
              omega
            · have hlt := ih h hpos
              rw [List.length_cons]
              omega
          · cases h

/-- The loop of `parse_subject_tag`; `none` where a slice panics. -/
def scanFrom (rest : List Char) : Option (Option (String × ℕ)) :=
  match findOpening rest with
  | none => some none
  | some start => match _hslice : sliceFrom (start + 2) rest with
    | none => none
    | some inner => match tagAt inner with
      | some found => some (some found)
      | none => scanFrom inner
termination_by rest.length
decreasing_by exact sliceFrom_length _hslice (by omega)

theorem sliceFrom_cons (c : Char) (cs : List Char) (n : ℕ) :
    sliceFrom (n + c.utf8Size) (c :: cs) = sliceFrom n cs := by
  have hpos := c.utf8Size_pos
  obtain ⟨m, hm⟩ : ∃ m, n + c.utf8Size = m + 1 := ⟨n + c.utf8Size - 1, by omega⟩
  rw [hm, sliceFrom, if_pos (by omega)]
  congr 1
  omega

/-- Behind the first `[#` the slice is where the scan on characters goes on. -/
theorem findOpening_spec (cs : List Char) : match findOpening cs with
    | none => subjectTag cs = none
    | some start => ∃ inner, sliceFrom (start + 2) cs = some inner ∧
        subjectTag cs = match tagAt inner with
          | some found => some found
          | none => subjectTag inner := by
  fun_induction findOpening cs with
  | case1 => rfl
  | case2 inner =>
      refine ⟨inner, ?_, ?_⟩
      · exact (sliceFrom_cons '[' ('#' :: inner) 1).trans
          ((sliceFrom_cons '#' inner 0).trans (by rw [sliceFrom]))
      · cases htag : tagAt inner with
        | none => exact subjectTag_skip htag
        | some found => simp only [subjectTag, htag]
  | case3 c rest hnot ih =>
      have hskip : subjectTag (c :: rest) = subjectTag rest := subjectTag_next hnot
      cases hfind : findOpening rest with
      | none =>
          rw [hfind] at ih
          exact hskip.trans ih
      | some start =>
          rw [hfind] at ih
          obtain ⟨inner, hslice, htag⟩ := ih
          refine ⟨inner, ?_, hskip.trans htag⟩
          rw [Nat.add_right_comm, sliceFrom_cons]
          exact hslice

/-- No slice of the scan cuts a character, and it finds what the scan on characters finds. -/
theorem scanFrom_eq (cs : List Char) : scanFrom cs = some (subjectTag cs) := by
  fun_induction scanFrom cs with
  | case1 cs hfind =>
      have hspec := findOpening_spec cs
      rw [hfind] at hspec
      rw [hspec]
  | case2 cs start hfind hslice =>
      have hspec := findOpening_spec cs
      rw [hfind] at hspec
      obtain ⟨inner, hinner, -⟩ := hspec
      rw [hslice] at hinner
      cases hinner
  | case3 cs start hfind inner hslice found htag =>
      have hspec := findOpening_spec cs
      rw [hfind] at hspec
      obtain ⟨inner', hinner, heq⟩ := hspec
      obtain rfl := Option.some.inj (hslice.symm.trans hinner)
      rw [heq, htag]
  | case4 cs start hfind inner hslice htag ih =>
      have hspec := findOpening_spec cs
      rw [hfind] at hspec
      obtain ⟨inner', hinner, heq⟩ := hspec
      obtain rfl := Option.some.inj (hslice.symm.trans hinner)
      rw [heq, htag]
      exact ih

/-! ### The laws -/

/-- What is stamped is parsed: with the slug and the number if the subject had no tag, and with the
number whatever tagless text is in front and whatever follows; stamping twice is stamping once; and the
scan on byte offsets ends without a panic. -/
theorem subject_tag_laws {slug : String} {number : ℕ} (hslug : validateSlug slug = .ok ())
    (hnumber : number < 2 ^ 64) (subject : String) :
    (parseSubjectTag subject = none →
      parseSubjectTag (tagSubject slug number subject) = some (slug, number)) ∧
    tagSubject slug number (tagSubject slug number subject) = tagSubject slug number subject ∧
    (∀ front rest, parseSubjectTag front = none →
      (parseSubjectTag (front ++ ticketSubjectTag slug number ++ rest)).map Prod.snd = some number) ∧
    scanFrom subject.toList = some (parseSubjectTag subject) := by
  have hstamped : parseSubjectTag subject = none →
      parseSubjectTag (tagSubject slug number subject) = some (slug, number) := by
    intro hnone
    unfold tagSubject
    rw [hnone, String.append_assoc]
    exact parseSubjectTag_ticket hslug hnumber _
  refine ⟨hstamped, ?_, fun front rest hfront => ?_, scanFrom_eq _⟩
  · have hsome : (parseSubjectTag (tagSubject slug number subject)).isSome := by
      cases hparse : parseSubjectTag subject with
      | none => rw [hstamped hparse]; rfl
      | some found =>
          have hkept : tagSubject slug number subject = subject := by
            rw [tagSubject, hparse]
            rfl
          rw [hkept, hparse]
          rfl
    rw [tagSubject, if_pos hsome]
  · rw [String.append_assoc]
    exact namesTicket_tag hslug hnumber rest front hfront

theorem subject_tag_laws_sample :
    parseSubjectTag (tagSubject "ridge-line" 42 "Re: [#") = some ("ridge-line", 42) :=
  (subject_tag_laws (by decide +kernel) (by decide) "Re: [#").1 (by decide +kernel)

/-! ### Notices to staff -/

theorem subjectTag_cons {c : Char} {rest : List Char}
    (hnot : c = '[' → rest.head? ≠ some '#') : subjectTag (c :: rest) = subjectTag rest := by
  rw [subjectTag]
  rintro inner rfl rfl
  exact hnot rfl rfl

/-- A tag that is found stays the first one, whatever follows. -/
theorem subjectTag_extend {cs : List Char} {found : String × ℕ} (h : subjectTag cs = some found)
    (more : List Char) : subjectTag (cs ++ more) = some found := by
  fun_induction subjectTag cs with
  | case1 => cases h
  | case2 inner found' htag =>
      have hclosed : ']' ∈ inner := by
        by_contra hopen
        rw [tagAt_none hopen] at htag
        cases htag
      rw [List.cons_append, List.cons_append, subjectTag, (tagAt_extend hclosed more).trans htag]
      exact h
  | case3 inner htag ih =>
      have hmore := ih h
      by_cases hclosed : ']' ∈ inner
      · rw [List.cons_append, List.cons_append, subjectTag_skip ((tagAt_extend hclosed more).trans htag)]
        exact hmore
      · rw [subjectTag_none hclosed] at h
        cases h
  | case4 c rest hnot ih =>
      have hmore := ih h
      rw [List.cons_append, subjectTag_cons]
      · exact hmore
      · rintro rfl hhead
        cases rest with
        | nil => cases h
        | cons d rest =>
            obtain rfl := Option.some.inj hhead
            exact hnot rest rfl rfl

/-- Tagless text in front makes no tag if what follows closes none. -/
theorem subjectTag_front {front tail : List Char} (hhead : tail.head? ≠ some '#')
    (hcloses : ∀ inner, ']' ∉ inner → tagAt (inner ++ tail) = none)
    (hfront : subjectTag front = none) : subjectTag (front ++ tail) = subjectTag tail := by
  fun_induction subjectTag front with
  | case1 => rfl
  | case2 inner found htag => cases hfront
  | case3 inner htag ih =>
      rw [List.cons_append, List.cons_append, subjectTag_skip]
      · exact ih hfront
      · by_cases hclosed : ']' ∈ inner
        · exact (tagAt_extend hclosed tail).trans htag
        · exact hcloses inner hclosed
  | case4 c rest hnot ih =>
      rw [List.cons_append, subjectTag_cons]
      · exact ih hfront
      · rintro rfl hsharp
        cases rest with
        | nil => exact hhead hsharp
        | cons d rest =>
            obtain rfl := Option.some.inj hsharp
            exact hnot rest rfl rfl

/-- A number has digits only, and possibly a `+`. -/
theorem digits_of_parseU64 {text : List Char} {m : ℕ} (h : parseU64 (String.ofList text) = some m) :
    ∀ c ∈ text, c = '+' ∨ isAsciiDigit c := by
  have hall : ∀ digits : List Char,
      (if digits.isEmpty || !digits.all isAsciiDigit || 2 ^ 64 ≤ digitsValue digits then none
        else some (digitsValue digits)) = some m → ∀ c ∈ digits, isAsciiDigit c := by
    intro digits hdigits
    split at hdigits
    · cases hdigits
    · rename_i hnot
      simp only [Bool.or_eq_true, Bool.not_eq_true', not_or, Bool.not_eq_false] at hnot
      exact List.all_eq_true.mp hnot.1.2
  unfold parseU64 at h
  rw [String.toList_ofList] at h
  intro c hc
  cases text with
  | nil => cases hc
  | cons d rest =>
      by_cases hplus : d = '+'
      · subst hplus
        rcases List.mem_cons.mp hc with rfl | hc
        · exact .inl rfl
        · exact .inr (hall rest h c hc)
      · refine .inr (hall (d :: rest) ?_ c hc)
        simpa [hplus] using h

/-- A text whose last `-` has a character behind it that is none of a number is not that of a tag. -/
theorem tagText_blocked {inner block : List Char} {d : Char} (hdash : '-' ∉ d :: block)
    (hd : ¬ (d = '+' ∨ isAsciiDigit d)) : tagText (inner ++ d :: block) = none := by
  cases htag : tagText (inner ++ d :: block) with
  | none => rfl
  | some found =>
      obtain ⟨slug, m⟩ := found
      obtain ⟨before, after, hsplit, hafter, -, -, hparse⟩ := tagText_iff.mp htag
      have hmem : d ∈ after := by
        rcases List.append_eq_append_iff.mp hsplit with ⟨more, rfl, hmore⟩ | ⟨more, rfl, hmore⟩
        · rw [hmore] at hdash
          simp at hdash
        · cases more with
          | nil =>
              rw [List.nil_append, List.cons_eq_cons] at hmore
              rw [hmore.1] at hdash
              simp at hdash
          | cons c more =>
              rw [(List.cons_eq_cons.mp hmore).2]
              simp
      exact absurd (digits_of_parseU64 hparse d hmem) hd

/-- The text before the first `]` of a name ends in `-` and a number. -/
def closesTag (name : String) : Bool :=
  ((splitOnce ']' name).bind fun (text, _) => (rsplitOnce '-' text).bind fun (_, number) =>
    parseU64 number).isSome

theorem closesTag_append {before after rest : List Char} {m : ℕ} (hbefore : ']' ∉ before)
    (hafter : '-' ∉ after) (hclose : ']' ∉ after)
    (hparse : parseU64 (String.ofList after) = some m) :
    closesTag (String.ofList (before ++ '-' :: after ++ ']' :: rest)) = true := by
  have hsplit : splitOnce ']' (String.ofList (before ++ '-' :: after ++ ']' :: rest)) =
      some (String.ofList (before ++ '-' :: after), String.ofList rest) := by
    apply splitOnce_eq
    · simp
    · simp [hbefore, hclose]
  unfold closesTag
  rw [hsplit, Option.bind_some]
  dsimp only
  rw [rsplitOnce_append hafter, Option.bind_some, hparse]
  rfl

theorem closesTag_true {name : String} (h : closesTag name = true) :
    ∃ before after rest m, name.toList = before ++ '-' :: after ++ ']' :: rest ∧ ']' ∉ before ∧
      ']' ∉ after ∧ '-' ∉ after ∧ parseU64 (String.ofList after) = some m := by
  unfold closesTag at h
  cases hsplit : splitOnce ']' name with
  | none =>
      rw [hsplit] at h
      cases h
  | some parts =>
      obtain ⟨text, rest⟩ := parts
      rw [hsplit, Option.bind_some] at h
      dsimp only at h
      obtain ⟨hlist, htext⟩ := splitOnce_some hsplit
      by_cases hdash : '-' ∈ text.toList
      · obtain ⟨last, first, hreverse, hlast⟩ :=
          List.eq_append_cons_of_mem (List.mem_reverse.mpr hdash)
        have hparts : text.toList = first.reverse ++ '-' :: last.reverse := by
          rw [← List.reverse_reverse text.toList, hreverse]
          simp
        have hlast' : '-' ∉ last.reverse := by simpa using hlast
        rw [← String.ofList_toList (s := text), hparts, rsplitOnce_append hlast', Option.bind_some] at h
        obtain ⟨m, hparse⟩ := Option.isSome_iff_exists.mp h
        rw [hparts, List.mem_append, List.mem_cons, not_or, not_or] at htext
        exact ⟨_, _, _, m, hparts ▸ hlist, htext.1, htext.2.2, hlast', hparse⟩
      · rw [← String.ofList_toList (s := text), rsplitOnce_none hdash] at h
        cases h

/-- With tagless text in front, the name closes a tag only if it ends one itself. -/
theorem tagAt_name {name : List Char} (hname : closesTag (String.ofList name) = false)
    {inner : List Char} (hinner : ']' ∉ inner) : tagAt (inner ++ '[' :: name) = none := by
  by_cases hclosed : ']' ∈ name
  · obtain ⟨text, rest, rfl, htext⟩ := List.eq_append_cons_of_mem hclosed
    rw [← List.cons_append, ← List.append_assoc, tagAt_append (by simp [hinner, htext])]
    cases htag : tagText (inner ++ '[' :: text) with
    | none => rfl
    | some found =>
        obtain ⟨slug, m⟩ := found
        obtain ⟨before, after, hsplit, hafter, -, -, hparse⟩ := tagText_iff.mp htag
        by_cases hdash : '-' ∈ text
        · obtain ⟨last, first, hreverse, hlast⟩ :=
            List.eq_append_cons_of_mem (List.mem_reverse.mpr hdash)
          obtain rfl : text = first.reverse ++ '-' :: last.reverse := by
            rw [← List.reverse_reverse text, hreverse]
            simp
          have hlast' : '-' ∉ last.reverse := by simpa using hlast
          rw [← List.cons_append, ← List.append_assoc] at hsplit
          obtain ⟨-, rfl⟩ := append_cons_inj hlast' hafter hsplit
          rw [List.mem_append, List.mem_cons, not_or, not_or] at htext
          rw [closesTag_append htext.1 hafter htext.2.2 hparse] at hname
          cases hname
        · rw [tagText_blocked (by simp [hdash]) (by decide)] at htag
          cases htag
  · exact tagAt_none (by simp [hinner, hclosed])

/-- What follows the name in the subject of a notice: a number, and the subject of the ticket. -/
def noticeTail (digits subject : List Char) : List Char :=
  ' ' :: '#' :: digits ++ ']' :: ' ' :: subject

section notices
variable {name digits subject : List Char}

theorem buildStaffMime_subject (libs : AppLibs) (inst : Instance) (ticket : Ticket)
    (recipient : Recipient) (headline : String) (excerpt : Option String) (nonce : String) :
    (buildStaffMime libs inst ticket recipient headline excerpt nonce).subject.toList =
      '[' :: inst.name.toList ++ noticeTail (toString ticket.number).toList ticket.subject.toList := by
  show ((((((toString "[" ++ toString inst.name) ++ toString " #") ++ toString ticket.number) ++
    toString "] ") ++ toString ticket.subject)).toList = _
  unfold noticeTail
  simp only [String.toList_append]
  simp [toString]

/-- The number closes no tag. -/
theorem tagAt_noticeTail (hdigits : ∀ d : Char, d.isDigit = false → d ∉ digits) {inner : List Char}
    (hinner : ']' ∉ inner) : tagAt (inner ++ noticeTail digits subject) = none := by
  have hdash : '-' ∉ ' ' :: '#' :: digits := by
    simp only [List.mem_cons, not_or]
    exact ⟨by decide, by decide, hdigits '-' rfl⟩
  have hclosed : ']' ∉ inner ++ ' ' :: '#' :: digits := by
    simp only [List.mem_append, List.mem_cons, not_or]
    exact ⟨hinner, by decide, by decide, hdigits ']' rfl⟩
  unfold noticeTail
  rw [← List.append_assoc, tagAt_append hclosed]
  exact tagText_blocked hdash (by decide)

/-- The tags of the tail are those of the subject. -/
theorem subjectTag_noticeTail (hdigits : ∀ d : Char, d.isDigit = false → d ∉ digits) :
    subjectTag (noticeTail digits subject) = subjectTag subject := by
  have hskip : ∀ cs : List Char, '[' ∉ cs → subjectTag (cs ++ subject) = subjectTag subject := by
    intro cs hcs
    induction cs with
    | nil => rfl
    | cons d cs ih =>
        rw [List.mem_cons, not_or] at hcs
        rw [List.cons_append, subjectTag_cons (fun hd => absurd hd.symm hcs.1)]
        exact ih hcs.2
  have hnone : '[' ∉ ' ' :: '#' :: digits ++ [']', ' '] := by
    simp only [List.mem_append, List.mem_cons, List.not_mem_nil, or_false, not_or]
    exact ⟨⟨by decide, by decide, hdigits '[' rfl⟩, by decide, by decide⟩
  rw [← hskip _ hnone, List.append_assoc]
  rfl

/-- Behind tagless text the first tag of the subject of a notice is that of the ticket's subject. -/
theorem subjectTag_notice (hdigits : ∀ d : Char, d.isDigit = false → d ∉ digits) {front : List Char}
    (hfront : subjectTag front = none) :
    subjectTag (front ++ noticeTail digits subject) = subjectTag subject := by
  rw [subjectTag_front (by simp [noticeTail]) (fun inner hinner => tagAt_noticeTail hdigits hinner)
    hfront]
  exact subjectTag_noticeTail hdigits

/-- A reply that has cut off a tag in front of a name that closes one. -/
theorem subjectTag_cut {before after rest more : List Char} {m : ℕ} (hbefore : ']' ∉ before)
    (hafter : ']' ∉ after) (hdash : '-' ∉ after) (hparse : parseU64 (String.ofList after) = some m) :
    (subjectTag ('[' :: '#' :: 'x' :: '[' :: (before ++ '-' :: after ++ ']' :: rest) ++ more)).isSome := by
  have htag : tagText ('x' :: '[' :: before ++ '-' :: after) =
      some (String.ofList ('x' :: '[' :: before), m) :=
    tagText_iff.mpr ⟨'x' :: '[' :: before, after, rfl, hdash, by simp, rfl, hparse⟩
  have hclosed : ']' ∉ 'x' :: '[' :: before ++ '-' :: after := by
    simp only [List.mem_append, List.mem_cons, not_or]
    exact ⟨⟨by decide, by decide, hbefore⟩, by decide, hafter⟩
  have hlist : '[' :: '#' :: 'x' :: '[' :: (before ++ '-' :: after ++ ']' :: rest) ++ more =
      '[' :: '#' :: (('x' :: '[' :: before ++ '-' :: after) ++ ']' :: (rest ++ more)) := by simp
  rw [hlist, subjectTag, (tagAt_append hclosed).trans htag]
  rfl

end notices

/-- The subject of a notice has no tag, whatever tagless text is in front, exactly if the subject of
the ticket has none, and the name of the instance neither has one nor closes one. -/
theorem staff_subject (libs : AppLibs) (inst : Instance) (ticket : Ticket) (recipient : Recipient)
    (headline : String) (excerpt : Option String) (nonce : String) :
    (∀ front, parseSubjectTag front = none → parseSubjectTag (front ++
      (buildStaffMime libs inst ticket recipient headline excerpt nonce).subject) = none) ↔
    parseSubjectTag ticket.subject = none ∧ parseSubjectTag ("[" ++ inst.name) = none ∧
      closesTag inst.name = false := by
  have hdigits : ∀ d : Char, d.isDigit = false → d ∉ (toString ticket.number).toList :=
    fun d hd => not_mem_toString hd _
  have hname : parseSubjectTag ("[" ++ inst.name) = subjectTag ('[' :: inst.name.toList) := by
    unfold parseSubjectTag
    rw [String.toList_append]
    rfl
  have hsubject := buildStaffMime_subject libs inst ticket recipient headline excerpt nonce
  constructor
  · intro h
    have hown := h "" rfl
    rw [String.empty_append] at hown
    unfold parseSubjectTag at hown
    rw [hsubject] at hown
    have hnone : subjectTag ('[' :: inst.name.toList) = none := by
      cases hfound : subjectTag ('[' :: inst.name.toList) with
      | none => rfl
      | some found =>
          rw [subjectTag_extend hfound] at hown
          cases hown
    rw [subjectTag_notice hdigits hnone] at hown
    refine ⟨hown, hname.trans hnone, ?_⟩
    by_contra hends
    obtain ⟨before, after, rest, m, hlist, hbefore, hafter, hdash, hparse⟩ :=
      closesTag_true (eq_true_of_ne_false hends)
    have hcut := h "[#x" rfl
    unfold parseSubjectTag at hcut
    rw [String.toList_append, hsubject, hlist] at hcut
    have hfound : (subjectTag ('[' :: '#' :: 'x' :: '[' :: (before ++ '-' :: after ++ ']' :: rest) ++
        noticeTail (toString ticket.number).toList ticket.subject.toList)).isSome :=
      subjectTag_cut hbefore hafter hdash hparse
    rw [Option.isSome_iff_ne_none] at hfound
    exact hfound hcut
  · rintro ⟨hown, hnone, hends⟩ front hfront
    unfold parseSubjectTag
    rw [String.toList_append, hsubject, ← List.append_assoc]
    have hends' : closesTag (String.ofList inst.name.toList) = false := by
      rw [String.ofList_toList]
      exact hends
    have hboth : subjectTag (front.toList ++ '[' :: inst.name.toList) = none := by
      rw [subjectTag_front (by simp) (fun inner hinner => tagAt_name hends' hinner) hfront]
      exact hname.symm.trans hnone
    rw [subjectTag_notice hdigits hboth]
    exact hown

/-- A customer has put a tag in the subject of his ticket, and the notice on it has that tag. -/
theorem staff_subject_tagged : ¬ ∀ (libs : AppLibs) (inst : Instance) (ticket : Ticket)
    (recipient : Recipient) (headline : String) (excerpt : Option String) (nonce : String),
    parseSubjectTag (buildStaffMime libs inst ticket recipient headline excerpt nonce).subject =
      none := by
  intro hclaim
  have hnone := hclaim ⟨asciiLower, id, "http://localhost:5173", "notify@desk.org", "noreply@desk.org"⟩
    sampleDesk (seventhTicket "[#desk-3] Printer") ⟨"u1", "ann@example.org", "Ann", .newTicket⟩
    "New ticket from kim@x.org" none "n1"
  revert hnone
  decide +kernel

end Microticket

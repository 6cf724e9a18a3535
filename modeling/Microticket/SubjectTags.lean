import Mathlib.Data.List.TakeWhile
import Microticket.AdminMutations
import Microticket.Digits
import Microticket.TicketInvariant

/-! # The tag in the subject

`tag_subject` leaves a subject alone in which any tag parses, whosever it is, and the number of the
first tag is what a reply is threaded by.  So a ticket whose subject has come with another ticket's tag
sends its mails under that one (`foreign_tag`).  `subject_own` says exactly which subjects keep the
number of their ticket, whatever a reply puts in front. -/

namespace Microticket

open RustText

/-! ### Tags -/

/-- The slug and the number of a tag, from what stands between `[#` and `]`. -/
def tagText (text : List Char) : Option (String × ℕ) := do
  let (slug, number) ← rsplitOnce '-' (String.ofList text)
  if slug.isEmpty then none else
  let number ← parseU64 number
  return (slug, number)

/-- What stands before the first `]` of the subject is the end of a tag with the number `m`. -/
def EndsTag (subject : String) (m : ℕ) : Prop :=
  ∃ text rest start slug, splitOnce ']' subject = some (text, rest) ∧ ']' ∉ start ∧
    tagText (start ++ text.toList) = some (slug, m)

/-- The subject of a ticket keeps its number: it has no tag, or its first tag has this number and
nothing before its first `]` is the end of a tag with another one. -/
def KeepsNumber (subject : String) (number : ℕ) : Prop :=
  parseSubjectTag subject = none ∨
    (parseSubjectTag subject).map Prod.snd = some number ∧ ∀ m, EndsTag subject m → m = number

theorem tagAt_append {text rest : List Char} (htext : ']' ∉ text) :
    tagAt (text ++ ']' :: rest) = tagText text := by
  have hsplit : splitOnce ']' (String.ofList (text ++ ']' :: rest)) =
      some (String.ofList text, String.ofList rest) := by
    apply splitOnce_eq
    · simp
    · simpa using htext
  unfold tagAt
  rw [hsplit]
  rfl

theorem tagAt_none {text : List Char} (htext : ']' ∉ text) : tagAt text = none := by
  have hsplit : splitOnce ']' (String.ofList text) = none := splitOnce_none (by simpa using htext)
  unfold tagAt
  rw [hsplit]
  rfl

/-- What follows the text of a tag is not read. -/
theorem tagAt_extend {inner : List Char} (hclosed : ']' ∈ inner) (more : List Char) :
    tagAt (inner ++ more) = tagAt inner := by
  obtain ⟨text, rest, rfl, htext⟩ := List.eq_append_cons_of_mem hclosed
  rw [List.append_assoc, List.cons_append, tagAt_append htext, tagAt_append htext]

theorem rsplitOnce_none {text : List Char} (hdash : '-' ∉ text) :
    rsplitOnce '-' (String.ofList text) = none := by
  have hspan : ((String.ofList text).toList.reverse).span (· != '-') = (text.reverse, []) := by
    rw [List.span_eq_takeWhile_dropWhile, String.toList_ofList]
    have hall : ∀ d ∈ text.reverse, (d != '-') = true := by
      intro d hd
      rw [bne_iff_ne]
      rintro rfl
      exact hdash (List.mem_reverse.mp hd)
    rw [List.takeWhile_eq_self_iff.mpr hall, List.dropWhile_eq_nil_iff.mpr hall]
  unfold rsplitOnce
  rw [hspan]

/-- The last `-` parts the slug from the number. -/
theorem tagText_iff {text : List Char} {slug : String} {m : ℕ} :
    tagText text = some (slug, m) ↔ ∃ before after, text = before ++ '-' :: after ∧ '-' ∉ after ∧
      before ≠ [] ∧ slug = String.ofList before ∧ parseU64 (String.ofList after) = some m := by
  by_cases hdash : '-' ∈ text
  · obtain ⟨after, before, hreverse, hafter⟩ :=
      List.eq_append_cons_of_mem (List.mem_reverse.mpr hdash)
    have htext : text = before.reverse ++ '-' :: after.reverse := by
      rw [← List.reverse_reverse text, hreverse]
      simp
    have hafter' : '-' ∉ after.reverse := by simpa using hafter
    generalize before.reverse = before, after.reverse = after at htext hafter'
    subst htext
    unfold tagText
    rw [rsplitOnce_append hafter']
    constructor
    · intro h
      cases before with
      | nil => cases h
      | cons c before =>
          have hempty : (String.ofList (c :: before)).isEmpty = false := by
            rw [← Bool.not_eq_true, String.isEmpty_iff]
            simp
          simp only [Option.bind_eq_bind, Option.bind_some, hempty, Bool.false_eq_true,
            if_false] at h
          cases hparse : parseU64 (String.ofList after) with
          | none =>
              rw [hparse] at h
              cases h
          | some n =>
              rw [hparse] at h
              obtain ⟨rfl, rfl⟩ := Prod.mk.inj (Option.some.inj h)
              exact ⟨c :: before, after, rfl, hafter', by simp, rfl, hparse⟩
    · rintro ⟨before', after', hsplit, hafter'', hne, rfl, hparse⟩
      obtain ⟨rfl, rfl⟩ := append_cons_inj hafter' hafter'' hsplit
      simp [hparse, hne]
  · constructor
    · intro h
      unfold tagText at h
      rw [rsplitOnce_none hdash] at h
      cases h
    · rintro ⟨before, after, rfl, -⟩
      simp at hdash

/-- The text of a tag with something in front has the same number. -/
theorem tagText_append {text : List Char} {slug : String} {m : ℕ} (start : List Char)
    (htag : tagText text = some (slug, m)) : ∃ slug', tagText (start ++ text) = some (slug', m) := by
  obtain ⟨before, after, rfl, hafter, hne, -, hparse⟩ := tagText_iff.mp htag
  refine ⟨_, tagText_iff.mpr ⟨start ++ before, after, by simp, hafter, ?_, rfl, hparse⟩⟩
  simp [hne]

/-- Without a `]` there is no tag. -/
theorem subjectTag_none {cs : List Char} (hopen : ']' ∉ cs) : subjectTag cs = none := by
  fun_induction subjectTag cs with
  | case1 => rfl
  | case2 inner found htag =>
      have hinner : ']' ∉ inner := fun hmem => hopen (by simp [hmem])
      rw [tagAt_none hinner] at htag
      cases htag
  | case3 inner htag ih => exact ih fun hmem => hopen (by simp [hmem])
  | case4 c rest hnot ih => exact ih fun hmem => hopen (by simp [hmem])

/-! ### Something in front -/

/-- The first tag has the number. -/
def Numbers (cs : List Char) (number : ℕ) : Prop :=
  (subjectTag cs).map Prod.snd = some number

/-- A character that begins no tag. -/
theorem subjectTag_next {c : Char} {rest : List Char}
    (hnot : ∀ inner, c = '[' → rest = '#' :: inner → False) :
    subjectTag (c :: rest) = subjectTag rest := by
  rw [subjectTag]
  exact hnot

theorem numbers_found {inner : List Char} {slug : String} {m : ℕ}
    (htag : tagAt inner = some (slug, m)) : Numbers ('[' :: '#' :: inner) m := by
  rw [Numbers, subjectTag, htag]
  rfl

theorem subjectTag_skip {inner : List Char} (htag : tagAt inner = none) :
    subjectTag ('[' :: '#' :: inner) = subjectTag inner := by
  rw [subjectTag, htag]

/-- No tag in front changes the number of the first tag, if none ends before the first `]` with another
number. -/
theorem numbers_append {text rest : List Char} {number : ℕ} (htext : ']' ∉ text)
    (hends : ∀ start slug m, ']' ∉ start → tagText (start ++ text) = some (slug, m) → m = number)
    (hnumber : Numbers (text ++ ']' :: rest) number) (front : List Char)
    (hfront : subjectTag front = none) : Numbers (front ++ (text ++ ']' :: rest)) number := by
  fun_induction subjectTag front with
  | case1 => exact hnumber
  | case2 inner found htag => cases hfront
  | case3 inner htag ih =>
      show Numbers ('[' :: '#' :: (inner ++ (text ++ ']' :: rest))) number
      by_cases hclosed : ']' ∈ inner
      · rw [Numbers, subjectTag_skip ((tagAt_extend hclosed _).trans htag)]
        exact ih hfront
      · have htag' : tagAt (inner ++ (text ++ ']' :: rest)) = tagText (inner ++ text) := by
          rw [← List.append_assoc]
          exact tagAt_append (by simp [hclosed, htext])
        cases hfound : tagText (inner ++ text) with
        | none =>
            rw [Numbers, subjectTag_skip (htag'.trans hfound)]
            exact ih hfront
        | some found =>
            obtain ⟨slug, m⟩ := found
            rw [← hends inner slug m hclosed hfound]
            exact numbers_found (htag'.trans hfound)
  | case4 c front hnot ih =>
      by_cases hopens : ∃ inner, c :: (front ++ (text ++ ']' :: rest)) = '[' :: '#' :: inner
      · -- the `[` is the last character in front, and the `#` the first one of the subject
        obtain ⟨inner, hopens⟩ := hopens
        obtain ⟨rfl, htail⟩ := List.cons_eq_cons.mp hopens
        cases front with
        | cons d front =>
            obtain ⟨rfl, -⟩ := List.cons_eq_cons.mp htail
            exact (hnot front rfl rfl).elim
        | nil =>
            cases text with
            | nil => cases htail
            | cons d text =>
                obtain ⟨rfl, rfl⟩ := List.cons_eq_cons.mp htail
                have htext' : ']' ∉ text := fun hmem => htext (List.mem_cons_of_mem _ hmem)
                have htag : tagAt (text ++ ']' :: rest) = tagText text := tagAt_append htext'
                cases hfound : tagText text with
                | none =>
                    show Numbers ('[' :: '#' :: (text ++ ']' :: rest)) number
                    rw [Numbers, subjectTag_skip (htag.trans hfound)]
                    exact hnumber
                | some found =>
                    obtain ⟨slug, m⟩ := found
                    obtain ⟨slug', hmore⟩ := tagText_append ['#'] hfound
                    rw [← hends [] slug' m (by simp) hmore]
                    exact numbers_found (htag.trans hfound)
      · have hskip : subjectTag (c :: (front ++ (text ++ ']' :: rest))) =
            subjectTag (front ++ (text ++ ']' :: rest)) :=
          subjectTag_next fun inner hc hrest => hopens ⟨inner, by rw [hc, hrest]⟩
        show (subjectTag (c :: (front ++ (text ++ ']' :: rest)))).map Prod.snd = some number
        rw [hskip]
        exact ih hfront

/-! ### The subject of a ticket -/

section subjects
variable {slug subject : String} {number : ℕ}

theorem mem_digits {c : Char} {n : ℕ} (hc : c ∈ (toString n).toList) : c.isDigit := by
  by_contra hdigit
  exact not_mem_toString (Bool.eq_false_iff.mpr hdigit) n hc

theorem ticketSubjectTag_toList : (ticketSubjectTag slug number).toList =
    '[' :: '#' :: (slug.toList ++ '-' :: (toString number).toList) ++ [']'] := by
  show ((((toString "[#" ++ toString slug) ++ toString "-") ++ toString number) ++
    toString "]").toList = _
  simp only [String.toList_append]
  simp [toString]

/-- A valid slug is not empty, and has no bracket. -/
theorem slug_of_valid (hslug : validateSlug slug = .ok ()) : slug.toList ≠ [] ∧ ']' ∉ slug.toList := by
  unfold validateSlug at hslug
  split at hslug
  · cases hslug
  rename_i hempty
  split at hslug
  · cases hslug
  split at hslug
  · cases hslug
  rename_i hchars
  constructor
  · intro hnil
    rw [String.isEmpty_iff] at hempty
    exact hempty (String.toList_eq_nil_iff.mp hnil)
  · intro hmem
    simp only [Bool.not_eq_true', Bool.not_eq_false, List.all_eq_true] at hchars
    exact absurd (hchars ']' hmem) (by decide)

/-- However it goes on, the text of the tag of a ticket ends with its number. -/
theorem tagText_own (hnumber : number < 2 ^ 64) {start : List Char} {slug' : String} {m : ℕ}
    (htag : tagText (start ++ (slug.toList ++ '-' :: (toString number).toList)) = some (slug', m)) :
    m = number := by
  obtain ⟨before, after, hsplit, hafter, -, -, hparse⟩ := tagText_iff.mp htag
  have hdigits : '-' ∉ (toString number).toList := fun hmem => absurd (mem_digits hmem) (by decide)
  rw [← List.append_assoc] at hsplit
  obtain ⟨-, rfl⟩ := append_cons_inj hdigits hafter hsplit
  rw [String.ofList_toList, parseU64_toString hnumber] at hparse
  exact (Option.some.inj hparse).symm

/-- The subject that is stamped, whatever tagless text stands in front, has the number of the ticket. -/
def NamesTicket (stamped : String) (number : ℕ) : Prop :=
  ∀ front, parseSubjectTag front = none →
    (parseSubjectTag (front ++ stamped)).map Prod.snd = some number

theorem namesTicket_of_text {stamped : String} {text rest : List Char}
    (hstamped : stamped.toList = text ++ ']' :: rest) (htext : ']' ∉ text)
    (hends : ∀ start slug m, ']' ∉ start → tagText (start ++ text) = some (slug, m) → m = number)
    (hnumber : Numbers stamped.toList number) : NamesTicket stamped number := by
  intro front hfront
  show ((subjectTag (front ++ stamped).toList).map Prod.snd) = some number
  rw [String.toList_append, hstamped]
  rw [hstamped] at hnumber
  exact numbers_append htext hends hnumber front.toList hfront

/-- The text of the tag of a ticket gives its slug and its number. -/
theorem tagText_ticket (hslug : validateSlug slug = .ok ()) (hnumber : number < 2 ^ 64) :
    ']' ∉ slug.toList ++ '-' :: (toString number).toList ∧
      tagText (slug.toList ++ '-' :: (toString number).toList) = some (slug, number) := by
  obtain ⟨hne, hbracket⟩ := slug_of_valid hslug
  have hdigits : ']' ∉ (toString number).toList := fun hmem => absurd (mem_digits hmem) (by decide)
  have hdash : '-' ∉ (toString number).toList := fun hmem => absurd (mem_digits hmem) (by decide)
  constructor
  · simp only [List.mem_append, List.mem_cons, not_or]
    exact ⟨hbracket, by decide, hdigits⟩
  · refine tagText_iff.mpr ⟨slug.toList, (toString number).toList, rfl, hdash, hne, ?_, ?_⟩
    · exact String.ofList_toList.symm
    · rw [String.ofList_toList]
      exact parseU64_toString hnumber

theorem ticketSubjectTag_append (rest : String) : (ticketSubjectTag slug number ++ rest).toList =
    ('[' :: '#' :: (slug.toList ++ '-' :: (toString number).toList)) ++ ']' :: rest.toList := by
  rw [String.toList_append, ticketSubjectTag_toList]
  simp

/-- A subject that begins with the tag of a ticket has this tag as its first one. -/
theorem parseSubjectTag_ticket (hslug : validateSlug slug = .ok ()) (hnumber : number < 2 ^ 64)
    (rest : String) :
    parseSubjectTag (ticketSubjectTag slug number ++ rest) = some (slug, number) := by
  obtain ⟨hinner, hown⟩ := tagText_ticket hslug hnumber
  unfold parseSubjectTag
  rw [ticketSubjectTag_append, List.cons_append, List.cons_append, subjectTag,
    (tagAt_append hinner).trans hown]

/-- Whatever follows it, the tag names its ticket. -/
theorem namesTicket_tag (hslug : validateSlug slug = .ok ()) (hnumber : number < 2 ^ 64)
    (rest : String) : NamesTicket (ticketSubjectTag slug number ++ rest) number := by
  obtain ⟨hinner, -⟩ := tagText_ticket hslug hnumber
  refine namesTicket_of_text (ticketSubjectTag_append rest) ?_ ?_ ?_
  · simp only [List.mem_cons, not_or]
    exact ⟨by decide, by decide, hinner⟩
  · intro start slug' m _ htag
    have htag' : tagText ((start ++ ['[', '#']) ++
        (slug.toList ++ '-' :: (toString number).toList)) = some (slug', m) := by
      rw [← htag]
      simp
    exact tagText_own hnumber htag'
  · exact congrArg (Option.map Prod.snd) (parseSubjectTag_ticket hslug hnumber rest)

/-- A subject with a tag is stamped as it is, and names its ticket exactly if it keeps its number. -/
theorem namesTicket_iff (hslug : validateSlug slug = .ok ()) (hnumber : number < 2 ^ 64) :
    NamesTicket (tagSubject slug number subject) number ↔ KeepsNumber subject number := by
  cases hparse : parseSubjectTag subject with
  | none =>
      have hstamp : tagSubject slug number subject =
          ticketSubjectTag slug number ++ " " ++ subject := by
        rw [tagSubject, hparse]
        rfl
      rw [hstamp]
      refine ⟨fun _ => .inl hparse, fun _ => ?_⟩
      rw [String.append_assoc]
      exact namesTicket_tag hslug hnumber _
  | some found =>
      have hstamp : tagSubject slug number subject = subject := by
        rw [tagSubject, hparse]
        rfl
      rw [hstamp]
      constructor
      · intro hnames
        refine .inr ⟨?_, ?_⟩
        · have hown := hnames "" rfl
          rw [String.empty_append] at hown
          exact hown
        · rintro m ⟨text, rest, start, slug', hsplit, hstart, htag⟩
          obtain ⟨hlist, htext⟩ := splitOnce_some hsplit
          have hfront : parseSubjectTag (String.ofList ('[' :: '#' :: start)) = none := by
            show subjectTag (String.ofList ('[' :: '#' :: start)).toList = none
            rw [String.toList_ofList]
            refine subjectTag_none ?_
            simp only [List.mem_cons, not_or]
            exact ⟨by decide, by decide, hstart⟩
          have hown := hnames _ hfront
          have hfound : Numbers ('[' :: '#' :: (start ++ text.toList ++ ']' :: rest.toList)) m :=
            numbers_found ((tagAt_append (by simp [hstart, htext])).trans htag)
          have hstamped : (String.ofList ('[' :: '#' :: start) ++ subject).toList =
              '[' :: '#' :: (start ++ text.toList ++ ']' :: rest.toList) := by
            rw [String.toList_append, String.toList_ofList, hlist]
            simp
          unfold parseSubjectTag at hown
          rw [hstamped] at hown
          unfold Numbers at hfound
          rw [hfound] at hown
          exact Option.some.inj hown
      · rintro (hnone | ⟨hown, hends⟩)
        · rw [hnone] at hparse
          cases hparse
        · have hclosed : ']' ∈ subject.toList := by
            by_contra hopen
            have hnone : parseSubjectTag subject = none := subjectTag_none hopen
            rw [hnone] at hparse
            cases hparse
          obtain ⟨text, rest, hlist, htext⟩ := List.eq_append_cons_of_mem hclosed
          have hsplit : splitOnce ']' subject = some (String.ofList text, String.ofList rest) := by
            apply splitOnce_eq
            · rw [hlist]
              simp
            · simpa using htext
          refine namesTicket_of_text hlist htext (fun start slug' m hstart htag => ?_) hown
          refine hends m ⟨_, _, start, slug', hsplit, hstart, ?_⟩
          rw [String.toList_ofList]
          exact htag

/-- The mails on a ticket are sent under its own number exactly if its subject keeps it: a reply, with
any tagless text in front of the subject, then finds this ticket or none by the number. -/
theorem subject_own {lower debug : String → String} {inst : Instance}
    {addresses : List InboundAddress} {ticket : Ticket} {requesterEmails ccEmails : List String}
    {body nonce : String} {threading : Threading} {mail : Mime}
    (hslug : validateSlug inst.slug = .ok ()) (hnumber : ticket.number < 2 ^ 64)
    (hmail : buildOutbound lower debug inst addresses ticket requesterEmails ccEmails body threading
      nonce = .ok mail) :
    ((parseSubjectTag mail.subject).map Prod.snd = some ticket.number ∧
      ∀ front recipients inReplyTo references, parseSubjectTag front = none →
        (buildResolutionPlan lower recipients inReplyTo references
          (front ++ mail.subject)).subjectNumber = some ticket.number) ↔
      KeepsNumber ticket.subject ticket.number := by
  have hsubject : mail.subject = tagSubject inst.slug ticket.number ticket.subject := by
    unfold buildOutbound at hmail
    split at hmail
    · cases hmail
    dsimp only at hmail
    split at hmail
    · cases hmail
    split at hmail
    · cases hmail
    · cases hmail
      rfl
  rw [hsubject, ← namesTicket_iff hslug hnumber]
  constructor
  · exact fun h front hfront => h.2 front [] none none hfront
  · intro hnames
    constructor
    · have hown := hnames "" rfl
      rw [String.empty_append] at hown
      exact hown
    · exact fun front recipients inReplyTo references hfront => hnames front hfront

end subjects

/-! ### Samples -/

/-- The seventh ticket of the desk, opened by a mail with this subject. -/
def seventhTicket (subject : String) : Ticket :=
  { id := "t7", instanceId := "i1", number := 7, subject, status := .open,
    requesterEmails := ["kim@x.org"], ccEmails := [], assigneeUserId := none, replyToken := "token7",
    createdAt := 1, updatedAt := 1, lastActivityAt := 1, hasAttachments := false }

/-- The mail on the seventh ticket. -/
def seventhMail (subject : String) : Except String Mime :=
  buildOutbound asciiLower id sampleDesk [⟨"help@desk.org", "i1", .exact, 1⟩] (seventhTicket subject)
    ["kim@x.org"] [] "Done." ⟨none, none⟩ "n1"

theorem subject_own_sample : ∃ mail, seventhMail "Printer" = .ok mail ∧
    mail.subject = "[#desk-7] Printer" ∧
      (buildResolutionPlan asciiLower [] none none ("Re: " ++ mail.subject)).subjectNumber = some 7 := by
  cases hmail : seventhMail "Printer" with
  | error e =>
      have hok : (seventhMail "Printer").isOk := by decide +kernel
      rw [hmail] at hok
      cases hok
  | ok mail =>
      have hkeeps : KeepsNumber (seventhTicket "Printer").subject 7 := .inl (by decide +kernel)
      have hown := (subject_own (by decide +kernel) (by decide) hmail).mpr hkeeps
      have hsubject : (seventhMail "Printer").map Mime.subject = .ok "[#desk-7] Printer" := by
        decide +kernel
      rw [hmail] at hsubject
      exact ⟨mail, rfl, Except.ok.inj hsubject, hown.2 "Re: " [] none none (by decide +kernel)⟩

/-- Kim's mail has come with the tag of another ticket: the mails on its ticket go out under that one. -/
theorem foreign_tag : ¬ ∀ (lower debug : String → String) (inst : Instance)
    (addresses : List InboundAddress) (ticket : Ticket) (requesterEmails ccEmails : List String)
    (body nonce : String) (threading : Threading) (mail : Mime),
    validateSlug inst.slug = .ok () → ticket.number < 2 ^ 64 →
    buildOutbound lower debug inst addresses ticket requesterEmails ccEmails body threading nonce =
      .ok mail →
    (parseSubjectTag mail.subject).map Prod.snd = some ticket.number := by
  intro hclaim
  cases hmail : seventhMail "Re: [#desk-3] Printer" with
  | error e =>
      have hok : (seventhMail "Re: [#desk-3] Printer").isOk := by decide +kernel
      rw [hmail] at hok
      cases hok
  | ok mail =>
      have hown := hclaim _ _ _ _ _ _ _ _ _ _ _ (by decide +kernel) (by decide) hmail
      have hsubject : (seventhMail "Re: [#desk-3] Printer").map (fun mail =>
          (parseSubjectTag mail.subject).map Prod.snd) = .ok (some 3) := by decide +kernel
      rw [hmail] at hsubject
      have hthree : (parseSubjectTag mail.subject).map Prod.snd = some 3 := Except.ok.inj hsubject
      rw [hown] at hthree
      cases hthree

end Microticket

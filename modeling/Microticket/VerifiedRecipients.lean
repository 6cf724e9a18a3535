import Microticket.TicketMutations
import Mathlib.Data.Finset.Card
import Mathlib.Data.List.Forall2

/-! # The recipients of a verified ticket

`normalize_verified_recipients` runs over both lists with one set of the addresses it has seen.
`verified_recipients` says exactly when it returns lists, and which: the addresses in the order of
their first occurrence (`List.eraseDups`), those of the second list without those of the first. -/

namespace Microticket

open RustText

/-! ### First occurrences -/

section first
variable {α : Type} [BEq α] [LawfulBEq α]

/-- The first occurrences of what is left are what is left of the first occurrences. -/
theorem eraseDups_filter (p : α → Bool) :
    ∀ as : List α, (as.filter p).eraseDups = as.eraseDups.filter p
  | [] => rfl
  | a :: as => by
      have hrest := eraseDups_filter p (as.filter fun b => !b == a)
      rw [List.eraseDups_cons, List.filter_cons, List.filter_cons]
      by_cases ha : p a
      · rw [if_pos ha, if_pos ha, List.eraseDups_cons, ← hrest, List.filter_comm]
      · rw [if_neg ha, if_neg ha, ← hrest, List.filter_comm]
        congr 1
        refine (List.filter_eq_self.mpr fun b hb => ?_).symm
        have hpb := (List.mem_filter.mp hb).2
        simp only [Bool.not_eq_true', beq_eq_false_iff_ne, ne_eq]
        rintro rfl
        exact ha hpb
termination_by as => as.length
decreasing_by exact Nat.lt_succ_of_le (List.length_filter_le _ _)

theorem nodup_eraseDups : ∀ as : List α, as.eraseDups.Nodup
  | [] => List.nodup_nil
  | a :: as => by
      rw [List.eraseDups_cons, List.nodup_cons]
      refine ⟨?_, nodup_eraseDups _⟩
      simp
termination_by as => as.length
decreasing_by exact Nat.lt_succ_of_le (List.length_filter_le _ _)

/-- A list without repetitions is the list of its first occurrences. -/
theorem eraseDups_eq_self {as : List α} (h : as.Nodup) : as.eraseDups = as := by
  induction as with
  | nil => rfl
  | cons a as ih =>
      obtain ⟨ha, has⟩ := List.nodup_cons.mp h
      have hkeep : (as.filter fun b => !b == a) = as := by
        refine List.filter_eq_self.mpr fun b hb => ?_
        simp only [Bool.not_eq_true', beq_eq_false_iff_ne, ne_eq]
        rintro rfl
        exact ha hb
      rw [List.eraseDups_cons, hkeep, ih has]

/-- The first occurrences of what has not been seen. -/
def unseen (seen as : List α) : List α := as.eraseDups.filter fun a => !seen.contains a

theorem unseen_cons_of_mem {seen as : List α} {a : α} (ha : a ∈ seen) :
    unseen seen (a :: as) = unseen seen as := by
  unfold unseen
  rw [List.eraseDups_cons, List.filter_cons_of_neg (by simpa using ha), eraseDups_filter,
    List.filter_filter]
  refine List.filter_congr fun b _ => ?_
  by_cases hb : b = a
  · simp [hb, ha]
  · simp [hb]

theorem unseen_cons_of_not_mem {seen as : List α} {a : α} (ha : a ∉ seen) :
    unseen seen (a :: as) = a :: unseen (a :: seen) as := by
  unfold unseen
  rw [List.eraseDups_cons, List.filter_cons_of_pos (by simpa using ha), eraseDups_filter,
    List.filter_filter]
  congr 1
  refine List.filter_congr fun b _ => ?_
  by_cases hb : b = a <;> simp [hb]

end first

/-! ### The two loops -/

section recipients
variable {libs : AppLibs} {raws emails new : List String} {people : List String × List String}

/-- Every address of a list is accepted, and is normalized to the one at its place. -/
def Normalizes (libs : AppLibs) (raws emails : List String) : Prop :=
  List.Forall₂ (fun raw email => normalizeTicketEmail libs raw = .ok email) raws emails

/-- A loop returns what has not been seen of the normalized addresses, if all are accepted. -/
theorem normalizeNew_iff (seen : List String) : normalizeNew libs seen raws = .ok new ↔
    ∃ emails, Normalizes libs raws emails ∧ new = unseen seen emails := by
  induction raws generalizing seen new with
  | nil =>
      constructor
      · intro h
        exact ⟨[], .nil, (Except.ok.inj h).symm⟩
      · rintro ⟨emails, hemails, rfl⟩
        cases hemails
        rfl
  | cons raw raws ih =>
      rw [normalizeNew]
      cases hraw : normalizeTicketEmail libs raw with
      | error e =>
          refine iff_of_false (fun h => by cases h) ?_
          rintro ⟨emails, hemails, -⟩
          cases hemails with
          | cons hemail _ =>
              rw [hraw] at hemail
              cases hemail
      | ok email =>
          dsimp only
          have hcons : (∃ emails, Normalizes libs (raw :: raws) emails ∧ new = unseen seen emails) ↔
              ∃ emails, Normalizes libs raws emails ∧ new = unseen seen (email :: emails) := by
            constructor
            · rintro ⟨emails, hemails, hnew⟩
              cases hemails with
              | cons hemail hrest =>
                  obtain rfl := Except.ok.inj (hraw.symm.trans hemail)
                  exact ⟨_, hrest, hnew⟩
            · rintro ⟨emails, hemails, hnew⟩
              exact ⟨email :: emails, .cons hraw hemails, hnew⟩
          rw [hcons]
          by_cases hseen : email ∈ seen
          · rw [if_pos (by simpa using hseen), ih]
            simp only [unseen_cons_of_mem hseen]
          · rw [if_neg (by simpa using hseen)]
            simp only [unseen_cons_of_not_mem hseen]
            cases hrest : normalizeNew libs (email :: seen) raws with
            | error e =>
                refine iff_of_false (fun h => by cases h) ?_
                rintro ⟨emails, hemails, -⟩
                have hok := (ih (email :: seen)).mpr ⟨emails, hemails, rfl⟩
                rw [hrest] at hok
                cases hok
            | ok others =>
                obtain ⟨emails, hemails, rfl⟩ := (ih (email :: seen)).mp hrest
                constructor
                · intro h
                  exact ⟨emails, hemails, (Except.ok.inj h).symm⟩
                · rintro ⟨emails', hemails', rfl⟩
                  have hok := (ih (email :: seen)).mpr ⟨emails', hemails', rfl⟩
                  rw [hrest] at hok
                  show Except.ok (email :: _) = _
                  rw [Except.ok.inj hok]

theorem unseen_nil (as : List String) : unseen [] as = as.eraseDups := by
  refine List.filter_eq_self.mpr fun a _ => ?_
  simp

theorem unseen_eraseDups (seen as : List String) : unseen seen.eraseDups as = unseen seen as := by
  unfold unseen
  refine List.filter_congr fun a _ => ?_
  by_cases ha : a ∈ seen <;> simp [ha]

/-- The first occurrences in both lists, and the number of them. -/
theorem length_unseen (tos ccs : List String) :
    tos.eraseDups.length + (unseen tos ccs).length = (tos ++ ccs).toFinset.card := by
  have hnodup : (tos.eraseDups ++ unseen tos ccs).Nodup := by
    rw [List.nodup_append']
    refine ⟨nodup_eraseDups tos, (nodup_eraseDups ccs).filter _, ?_⟩
    intro a hto hcc
    have hnot := (List.mem_filter.mp hcc).2
    simp [List.mem_eraseDups.mp hto] at hnot
  have hsame : (tos ++ ccs).toFinset = (tos.eraseDups ++ unseen tos ccs).toFinset := by
    ext a
    by_cases ha : a ∈ tos <;> simp [unseen, ha]
  rw [hsame, List.toFinset_card_of_nodup hnodup, List.length_append]

variable {tos ccs : List String}

theorem Normalizes.eraseDups_eq_nil (h : Normalizes libs raws emails) :
    emails.eraseDups = [] ↔ raws = [] := by
  cases h with
  | nil => simp
  | cons _ _ => simp [List.eraseDups_cons]

/-- Both lists are accepted, there is an address to send to, and there are not too many. -/
theorem normalizeVerifiedRecipients_iff : normalizeVerifiedRecipients libs tos ccs = .ok people ↔
    ∃ toEmails ccEmails, Normalizes libs tos toEmails ∧ Normalizes libs ccs ccEmails ∧ tos ≠ [] ∧
      (toEmails ++ ccEmails).toFinset.card ≤ maxVerifiedTicketRecipients ∧
      people = (toEmails.eraseDups, unseen toEmails ccEmails) := by
  constructor
  · intro h
    unfold normalizeVerifiedRecipients at h
    cases hto : normalizeNew libs [] tos with
    | error e =>
        rw [hto] at h
        cases h
    | ok first =>
        obtain ⟨toEmails, htos, rfl⟩ := (normalizeNew_iff []).mp hto
        rw [hto, unseen_nil] at h
        dsimp only at h
        split at h
        · cases h
        · rename_i hne
          cases hcc : normalizeNew libs toEmails.eraseDups ccs with
          | error e =>
              rw [hcc] at h
              cases h
          | ok second =>
              obtain ⟨ccEmails, hccs, rfl⟩ := (normalizeNew_iff _).mp hcc
              rw [hcc, unseen_eraseDups] at h
              dsimp only at h
              rw [length_unseen] at h
              split at h
              · cases h
              · rename_i hfew
                refine ⟨toEmails, ccEmails, htos, hccs, fun hnil => hne ?_, not_lt.mp hfew,
                  (Except.ok.inj h).symm⟩
                rw [htos.eraseDups_eq_nil.mpr hnil]
                rfl
  · rintro ⟨toEmails, ccEmails, htos, hccs, hne, hfew, rfl⟩
    have hto : normalizeNew libs [] tos = .ok toEmails.eraseDups :=
      (normalizeNew_iff []).mpr ⟨toEmails, htos, (unseen_nil toEmails).symm⟩
    have hcc : normalizeNew libs toEmails.eraseDups ccs = .ok (unseen toEmails ccEmails) :=
      (normalizeNew_iff _).mpr ⟨ccEmails, hccs, (unseen_eraseDups toEmails ccEmails).symm⟩
    have hfirst : toEmails.eraseDups ≠ [] := fun hnil => hne (htos.eraseDups_eq_nil.mp hnil)
    unfold normalizeVerifiedRecipients
    rw [hto]
    dsimp only
    rw [if_neg (by simpa using hfirst), hcc]
    dsimp only
    rw [length_unseen, if_neg (not_lt.mpr hfew)]

/-! ### Once more -/

/-- What `str::to_lowercase` does to texts that are lower case or trimmed already. -/
structure KeepsLower (lower : String → String) : Prop where
  again : ∀ s, lower (lower s) = lower s
  trimmed : ∀ s, trim s = s → trim (lower s) = lower s

/-- A normalized address is accepted as it is. -/
theorem normalizeTicketEmail_again (hlower : KeepsLower libs.lower) {raw email : String}
    (h : normalizeTicketEmail libs raw = .ok email) :
    normalizeTicketEmail libs email = .ok email := by
  unfold normalizeTicketEmail at h
  dsimp only at h
  cases hsplit : splitOnce '@' (libs.lower (trim raw)) with
  | none =>
      rw [hsplit] at h
      cases h
  | some parts =>
      rw [hsplit] at h
      dsimp only at h
      split at h
      · cases h
      · rename_i hparts
        obtain rfl := Except.ok.inj h
        have hsame : libs.lower (trim (libs.lower (trim raw))) = libs.lower (trim raw) := by
          rw [hlower.trimmed _ (trim_trim raw), hlower.again]
        unfold normalizeTicketEmail
        simp only [hsame, hsplit]
        rw [if_neg hparts]

theorem Normalizes.again (hlower : KeepsLower libs.lower) (h : Normalizes libs raws emails)
    {kept : List String} (hkept : ∀ email ∈ kept, email ∈ emails) : Normalizes libs kept kept := by
  have hall : ∀ email ∈ emails, normalizeTicketEmail libs email = .ok email := by
    clear hkept
    intro email hemail
    induction h with
    | nil => cases hemail
    | cons hfirst _ ih =>
        rcases List.mem_cons.mp hemail with rfl | hemail
        · exact normalizeTicketEmail_again hlower hfirst
        · exact ih hemail
  unfold Normalizes
  rw [List.forall₂_same]
  exact fun email hemail => hall email (hkept email hemail)

/-- Lists are returned exactly for accepted ones that are not too long: the first occurrences,
without repetitions in or between the lists, and the same lists for these. -/
theorem verified_recipients (tos ccs : List String) (people : List String × List String) :
    (normalizeVerifiedRecipients libs tos ccs = .ok people ↔
      ∃ toEmails ccEmails, Normalizes libs tos toEmails ∧ Normalizes libs ccs ccEmails ∧ tos ≠ [] ∧
        (toEmails ++ ccEmails).toFinset.card ≤ maxVerifiedTicketRecipients ∧
        people = (toEmails.eraseDups, ccEmails.eraseDups.filter fun cc => !toEmails.contains cc)) ∧
    (normalizeVerifiedRecipients libs tos ccs = .ok people →
      people.1.Nodup ∧ people.2.Nodup ∧ people.1.Disjoint people.2 ∧
        (KeepsLower libs.lower →
          normalizeVerifiedRecipients libs people.1 people.2 = .ok people)) := by
  refine ⟨normalizeVerifiedRecipients_iff, fun h => ?_⟩
  obtain ⟨toEmails, ccEmails, htos, hccs, hne, hfew, rfl⟩ := normalizeVerifiedRecipients_iff.mp h
  have hcc : ∀ email ∈ unseen toEmails ccEmails, email ∈ ccEmails ∧ email ∉ toEmails := by
    intro email hemail
    obtain ⟨hmem, hnot⟩ := List.mem_filter.mp hemail
    exact ⟨List.mem_eraseDups.mp hmem, by simpa using hnot⟩
  have hnodup : (unseen toEmails ccEmails).Nodup := (nodup_eraseDups ccEmails).filter _
  refine ⟨nodup_eraseDups toEmails, hnodup, ?_, ?_⟩
  · intro email hto hemail
    exact (hcc email hemail).2 (List.mem_eraseDups.mp hto)
  · intro hlower
    refine normalizeVerifiedRecipients_iff.mpr ⟨toEmails.eraseDups, unseen toEmails ccEmails,
      htos.again hlower fun email hemail => List.mem_eraseDups.mp hemail,
      hccs.again hlower fun email hemail => (hcc email hemail).1,
      fun hnil => hne (htos.eraseDups_eq_nil.mp hnil), ?_, ?_⟩
    · rw [← length_unseen] at hfew
      have hboth : (toEmails.eraseDups ++ unseen toEmails ccEmails).toFinset.card ≤
          (toEmails.eraseDups ++ unseen toEmails ccEmails).length := List.toFinset_card_le _
      rw [List.length_append] at hboth
      omega
    · have hkeep : unseen toEmails.eraseDups (unseen toEmails ccEmails) =
          unseen toEmails ccEmails := by
        rw [unseen_eraseDups]
        unfold unseen
        rw [eraseDups_filter, eraseDups_eq_self (nodup_eraseDups ccEmails), List.filter_filter]
        simp only [Bool.and_self]
      rw [hkeep, eraseDups_eq_self (nodup_eraseDups toEmails)]

end recipients

/-- Libraries for addresses that are lower case already. -/
def lowerLibs : AppLibs := ⟨id, id, "https://desk.example.org", "noreply@example.org", ""⟩

theorem verified_recipients_sample :
    ["ann@x.org", "bob@x.org"].Nodup ∧ ["cy@x.org"].Nodup ∧
    ["ann@x.org", "bob@x.org"].Disjoint ["cy@x.org"] ∧
    normalizeVerifiedRecipients lowerLibs ["ann@x.org", "bob@x.org"] ["cy@x.org"] =
      .ok (["ann@x.org", "bob@x.org"], ["cy@x.org"]) := by
  have hok : normalizeVerifiedRecipients lowerLibs ["ann@x.org", "bob@x.org", " ann@x.org"]
      ["bob@x.org", "cy@x.org"] = .ok (["ann@x.org", "bob@x.org"], ["cy@x.org"]) := by
    decide +kernel
  have hlower : KeepsLower lowerLibs.lower := ⟨fun _ => rfl, fun _ h => h⟩
  obtain ⟨htos, hccs, hdisjoint, hagain⟩ := (verified_recipients
    ["ann@x.org", "bob@x.org", " ann@x.org"] ["bob@x.org", "cy@x.org"]
    (["ann@x.org", "bob@x.org"], ["cy@x.org"])).2 hok
  exact ⟨htos, hccs, hdisjoint, hagain hlower⟩

end Microticket

import Microticket.Filenames
import Microticket.ReplyAddresses
import Microticket.TicketRules
import Mathlib.Data.List.Infix

/-! # Keys of uploads

`createAttachmentUpload` writes the sanitized name of a file behind the instance and a drawn id, and
`move_attachments` takes it off the key again.  Before that it refuses every key with two dots in a
row, which a sanitized name may have: the key of such an upload is never accepted, all others come
back as they went out (`upload_keys`). -/

namespace Microticket

open Interleaving RustText

/-- Two dots in a row. -/
def TwoDots (cs : List Char) : Prop := ['.', '.'] <:+: cs

instance (cs : List Char) : Decidable (TwoDots cs) := by
  unfold TwoDots
  infer_instance

/-! ### Texts within texts -/

theorem dropChars_isSome {start s : List Char} :
    (dropStart.dropChars start s).isSome ↔ start <+: s := by
  constructor
  · intro h
    obtain ⟨rest, hrest⟩ := Option.isSome_iff_exists.mp h
    exact ⟨rest, (dropChars_some hrest).symm⟩
  · rintro ⟨rest, rfl⟩
    rw [dropChars_append]
    rfl

theorem containsText_iff {text s : String} :
    containsText text s = true ↔ text.toList <:+: s.toList := by
  unfold containsText
  rw [List.any_eq_true]
  constructor
  · rintro ⟨rest, hrest, hprefix⟩
    exact (dropChars_isSome.mp hprefix).isInfix.trans ((List.mem_tails _ _).mp hrest).isInfix
  · intro h
    obtain ⟨rest, hprefix, hsuffix⟩ := List.infix_iff_prefix_suffix.mp h
    exact ⟨rest, (List.mem_tails _ _).mpr hsuffix, dropChars_isSome.mpr hprefix⟩

/-- A part without dots may be left out of the search. -/
theorem twoDots_append {front rest : List Char} (hfront : '.' ∉ front) :
    TwoDots (front ++ rest) ↔ TwoDots rest := by
  induction front with
  | nil => rfl
  | cons c front ih =>
      have hc : c ≠ '.' := fun hc => hfront (hc ▸ List.mem_cons_self)
      have hrest := ih fun hmem => hfront (List.mem_cons_of_mem _ hmem)
      unfold TwoDots at hrest ⊢
      rw [List.cons_append, List.infix_cons_iff, hrest]
      refine or_iff_right fun hprefix => ?_
      exact hc (List.cons_prefix_cons.mp hprefix).1.symm

/-- A text without dots. -/
theorem not_twoDots {cs : List Char} (h : '.' ∉ cs) : ¬ TwoDots cs := by
  intro hdots
  have hmem := hdots.subset (List.mem_cons_self (a := '.') (l := ['.']))
  exact h hmem

theorem twoDots_map (cs : List Char) : TwoDots (cs.map keepChar) ↔ TwoDots cs := by
  have hdot : ∀ c, '.' = keepChar c ↔ '.' = c := by
    intro c
    rw [eq_comm, eq_comm (a := '.')]
    simpa using congrArg (· = true) (keepChar_dot c)
  induction cs with
  | nil => rfl
  | cons c cs ih =>
      unfold TwoDots at ih ⊢
      rw [List.map_cons, List.infix_cons_iff, List.infix_cons_iff]
      refine or_congr ?_ ih
      cases cs with
      | nil => simp
      | cons d cs => simp [List.cons_prefix_cons, hdot]

/-! ### Sanitized names -/

/-- A sanitized name has no separator, and two dots in a row only where the file name has. -/
theorem sanitized_name (filename : String) :
    '/' ∉ (sanitizeFilename (some filename) 0).toList ∧
    (TwoDots (sanitizeFilename (some filename) 0).toList ↔ TwoDots (offEnds (cutName filename))) := by
  have hname : sanitizeFilename (some filename) 0 =
      if offEnds (cutName filename) = [] then "attachment-0"
      else String.ofList ((offEnds (cutName filename)).map keepChar) := by
    have hfallback : s!"attachment-{(0 : ℕ)}" = "attachment-0" := by decide +kernel
    show (if (cleanFilename filename).isEmpty then s!"attachment-{(0 : ℕ)}"
      else cleanFilename filename) = _
    rw [cleanFilename_eq, hfallback]
    by_cases hnil : offEnds (cutName filename) = []
    · rw [hnil]
      rfl
    · have hempty : (String.ofList ((offEnds (cutName filename)).map keepChar)).isEmpty = false := by
        simpa [← Bool.not_eq_true, String.isEmpty_iff] using hnil
      rw [hempty, if_neg Bool.false_ne_true, if_neg hnil]
  rw [hname]
  by_cases hnil : offEnds (cutName filename) = []
  · rw [if_pos hnil, hnil]
    decide
  · rw [if_neg hnil, String.toList_ofList, twoDots_map]
    constructor
    · intro hmem
      obtain ⟨c, -, hc⟩ := List.mem_map.mp hmem
      exact absurd (hc ▸ keepChar_safe c) (by decide)
    · rfl

/-! ### Keys -/

/-- `move_attachments` with the name `filename` for an accepted key. -/
def moveUnder (libs : AppLibs) (ticket : Ticket) (messageId : String) (index : ℕ)
    (key filename : String) (keys : List String) : TicketProg (List Attachment) := do
  let finalKey := attachmentKey ticket.id messageId index filename
  match ← send (.moveObject key finalKey) with
  | .error _ => throw (.other s!"moving {key}")
  | .ok () =>
      let size ← send (.objectSize finalKey)
      let rest ← moveAttachments libs ticket messageId (index + 1) keys
      return ⟨finalKey, filename, guessContentType filename, size.toOption.getD 0⟩ :: rest

/-- The key of an upload of `instanceId` comes back: it is accepted for this instance and for no other,
and `move_attachments` takes `filename` off it. -/
structure ComesBack (instanceId key filename : String) : Prop where
  accepted : isPendingKeyForInstance key instanceId
  foreign : ∀ other, IsNanoid other → other ≠ instanceId → ¬ isPendingKeyForInstance key other
  recovered : ∀ libs ticket messageId index keys, ticket.instanceId = instanceId →
    moveAttachments libs ticket messageId index (key :: keys) =
      moveUnder libs ticket messageId index key filename keys

theorem pendingKey_toList (instanceId unique filename : String) :
    (pendingKey instanceId unique filename).toList = "pending/".toList ++
      (instanceId.toList ++ '/' :: (unique.toList ++ '/' :: filename.toList)) := by
  unfold pendingKey
  simp [toString, String.toList_append]

section keys
variable {instanceId unique : String}

/-- The check of a key that was made for an instance. -/
theorem isPendingKey_iff {key instanceId : String} : isPendingKeyForInstance key instanceId ↔
    ¬ TwoDots key.toList ∧ "pending/".toList ++ instanceId.toList ++ ['/'] <+: key.toList := by
  have htext : s!"pending/{instanceId}/".toList = "pending/".toList ++ instanceId.toList ++ ['/'] := by
    simp [toString, String.toList_append]
  have hdots : containsText ".." key = true ↔ TwoDots key.toList := containsText_iff
  unfold isPendingKeyForInstance dropStart
  rw [Bool.and_eq_true, Bool.not_eq_true', ← Bool.not_eq_true, hdots, Option.isSome_map,
    dropChars_isSome, htext]

/-- The check lets a key through for the instance that it was made for, unless its name has two dots in
a row. -/
theorem pendingKey_accepted (hinstance : IsNanoid instanceId) (hunique : IsNanoid unique)
    (filename : String) {other : String} (hother : IsNanoid other) :
    isPendingKeyForInstance (pendingKey instanceId unique filename) other ↔
      other = instanceId ∧ ¬ TwoDots filename.toList := by
  have hslash : '/' ∉ nanoidAlphabet := by decide
  have hdot : '.' ∉ nanoidAlphabet := by decide
  have hdots : TwoDots (pendingKey instanceId unique filename).toList ↔ TwoDots filename.toList := by
    have hfront : '.' ∉ "pending/".toList ++ instanceId.toList ++ '/' :: unique.toList ++ ['/'] := by
      simp [hinstance.not_mem hdot, hunique.not_mem hdot]
    have hkey : (pendingKey instanceId unique filename).toList = ("pending/".toList ++
        instanceId.toList ++ '/' :: unique.toList ++ ['/']) ++ filename.toList := by
      rw [pendingKey_toList]
      simp
    rw [hkey, twoDots_append hfront]
  have hprefix : "pending/".toList ++ other.toList ++ ['/'] <+:
      (pendingKey instanceId unique filename).toList ↔ other = instanceId := by
    rw [pendingKey_toList, List.append_assoc, List.prefix_append_right_inj]
    constructor
    · rintro ⟨rest, hrest⟩
      rw [List.append_assoc, List.singleton_append] at hrest
      have hspan := congrArg (List.span (· != '/')) hrest
      rw [span_ne_append (hother.not_mem hslash), span_ne_append (hinstance.not_mem hslash)] at hspan
      exact String.toList_inj.mp (Prod.mk.inj hspan).1
    · rintro rfl
      exact ⟨unique.toList ++ '/' :: filename.toList, by simp⟩
  rw [isPendingKey_iff, hdots, hprefix, and_comm]

/-- The key of an upload comes back exactly if no two dots in a row are left of the file's name. -/
theorem upload_keys (hinstance : IsNanoid instanceId) (hunique : IsNanoid unique) (filename : String) :
    ComesBack instanceId (pendingKey instanceId unique (sanitizeFilename (some filename) 0))
      (sanitizeFilename (some filename) 0) ↔ ¬ TwoDots (offEnds (cutName filename)) := by
  obtain ⟨hslash, hdots⟩ := sanitized_name filename
  generalize sanitizeFilename (some filename) 0 = name at hslash hdots ⊢
  rw [← hdots]
  constructor
  · intro h
    exact ((pendingKey_accepted hinstance hunique name hinstance).mp h.accepted).2
  · intro hname
    have haccepted : isPendingKeyForInstance (pendingKey instanceId unique name) instanceId :=
      (pendingKey_accepted hinstance hunique name hinstance).mpr ⟨rfl, hname⟩
    have hlast : ((rsplitOnce '/' (pendingKey instanceId unique name)).map Prod.snd).getD
        (pendingKey instanceId unique name) = name := by
      have hkey : pendingKey instanceId unique name = String.ofList
          (("pending/".toList ++ instanceId.toList ++ '/' :: unique.toList) ++ '/' :: name.toList) := by
        rw [← String.toList_inj, pendingKey_toList, String.toList_ofList]
        simp
      rw [hkey, rsplitOnce_append hslash, Option.map_some, Option.getD_some, String.ofList_toList]
    refine ⟨haccepted, fun other hother hne hforeign => ?_, ?_⟩
    · exact hne ((pendingKey_accepted hinstance hunique name hother).mp hforeign).1
    · intro libs ticket messageId index keys hticket
      unfold moveAttachments
      rw [hticket, Prog.ensure_pos haccepted, hlast]
      rfl

end keys

/-- The key that `createAttachmentUpload` answers is made of the instance of the ticket, a drawn id and
the sanitized name. -/
theorem createAttachmentUpload_key (i : ℕ) (auth : Option AuthInfo)
    (ticketId filename contentType : String) :
    Sends i (fun _ _ => True) (fun r h => ∀ key url, r = .ok (.upload key url) →
      ∃ ticket unique, (⟨i, .getTicket ticketId, .ok (some ticket)⟩ : TicketEvent) ∈ h ∧
        (⟨i, .newId, unique⟩ : TicketEvent) ∈ h ∧
        key = pendingKey ticket.instanceId unique (sanitizeFilename (some filename) 0))
      (createAttachmentUpload auth ticketId filename contentType) [] := by
  refine sends_member trivial (fun e h key url hr => by cases hr) fun ticket => ?_
  refine ⟨trivial, fun unique => ⟨trivial, fun r => ?_⟩⟩
  cases r with
  | error e =>
      intro key url hr
      cases hr
  | ok link =>
      intro key url hr
      cases hr
      exact ⟨ticket, unique, by simp, by simp, rfl⟩

/-- A name with two dots in a row: the key that is handed out for it is refused. -/
theorem double_dot_refused : ¬ ComesBack "i1"
    (pendingKey "i1" "u1" (sanitizeFilename (some "v1..2.pdf") 0))
    (sanitizeFilename (some "v1..2.pdf") 0) := by
  intro h
  have hrefused : isPendingKeyForInstance
      (pendingKey "i1" "u1" (sanitizeFilename (some "v1..2.pdf") 0)) "i1" = false := by decide +kernel
  exact absurd h.accepted (by rw [hrefused]; exact Bool.false_ne_true)

theorem upload_keys_sample : ComesBack "i1"
    (pendingKey "i1" "u1" (sanitizeFilename (some "../v1.2.pdf") 0))
    (sanitizeFilename (some "../v1.2.pdf") 0) :=
  (upload_keys (by decide) (by decide) "../v1.2.pdf").mpr (by decide +kernel)

end Microticket

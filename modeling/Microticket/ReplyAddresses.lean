import Microticket.Resolution

/-! # Reply addresses

The `Reply-To` of a mail on a ticket carries the id and the reply token of the ticket behind a `+` of
the local part.  When it comes back as a recipient, `normalizeRecipient` cuts it at the first `+`, so
it leads back to the address and the ticket it was made from as long as the local part of that
address has no `+` of its own (`threads_back_iff`). -/

namespace Microticket

open RustText

/-- What `str::to_lowercase` does to texts that are lower case already. -/
structure LowerLaws (lower : String → String) : Prop where
  part : ∀ s a before after, (lower s).toList = before ++ a.toList ++ after → lower a = a
  support : lower "support" = "support"

/-- `NANOID_ALPHABET`. -/
def nanoidAlphabet : List Char :=
  "0123456789ABCDEFGHIJKLMNOPQRSTUVWXYZabcdefghijklmnopqrstuvwxyz".toList

/-- A text that `nanoid!` may draw. -/
def IsNanoid (s : String) : Prop := s.toList ≠ [] ∧ ∀ c ∈ s.toList, c ∈ nanoidAlphabet

instance (s : String) : Decidable (IsNanoid s) :=
  decidable_of_iff (s.toList ≠ [] ∧ s.toList.all nanoidAlphabet.contains) (by
    rw [IsNanoid, List.all_eq_true]
    simp)

theorem IsNanoid.not_mem {s : String} (h : IsNanoid s) {c : Char} (hc : c ∉ nanoidAlphabet) :
    c ∉ s.toList := fun hmem => hc (h.2 c hmem)

theorem IsNanoid.not_isEmpty {s : String} (h : IsNanoid s) : s.isEmpty = false := by
  rw [← Bool.not_eq_true, String.isEmpty_iff]
  rintro rfl
  exact h.1 rfl

/-! ### Tags -/

theorem dropChars_append (start rest : List Char) :
    dropStart.dropChars start (start ++ rest) = some rest := by
  induction start with
  | nil => rfl
  | cons c start ih =>
      rw [List.cons_append, dropStart.dropChars, if_pos rfl]
      exact ih

theorem dropChars_some {start s rest : List Char} (h : dropStart.dropChars start s = some rest) :
    s = start ++ rest := by
  induction start generalizing s with
  | nil => exact Option.some.inj h
  | cons c start ih =>
      cases s with
      | nil => cases h
      | cons d s =>
          rw [dropStart.dropChars] at h
          split at h
          · rename_i hcd
            rw [hcd, ih h]
            rfl
          · cases h

theorem dropStart_eq {start s rest : String} (h : s.toList = start.toList ++ rest.toList) :
    dropStart start s = some rest := by
  unfold dropStart
  rw [h, dropChars_append, Option.map_some, String.ofList_toList]

theorem dropStart_some {start s rest : String} (h : dropStart start s = some rest) :
    s.toList = start.toList ++ rest.toList := by
  obtain ⟨chars, hchars, rfl⟩ := Option.map_eq_some_iff.mp h
  rw [String.toList_ofList]
  exact dropChars_some hchars

/-- The tag of a ticket. -/
theorem parseReplyTag_eq {tag ticketId replyToken : String}
    (htag : tag.toList = 't' :: (ticketId.toList ++ '.' :: replyToken.toList))
    (hid : IsNanoid ticketId) (htoken : IsNanoid replyToken) :
    parseReplyTag tag = some ⟨ticketId, replyToken⟩ := by
  have hdrop : dropStart "t" tag =
      some (String.ofList (ticketId.toList ++ '.' :: replyToken.toList)) := by
    refine dropStart_eq ?_
    rw [htag]
    exact congrArg ('t' :: ·) String.toList_ofList.symm
  have hsplit : splitOnce '.' (String.ofList (ticketId.toList ++ '.' :: replyToken.toList)) =
      some (ticketId, replyToken) :=
    splitOnce_eq String.toList_ofList (hid.not_mem (by decide))
  unfold parseReplyTag
  rw [hdrop]
  show (splitOnce '.' _ >>= _) = _
  rw [hsplit]
  show (if ticketId.isEmpty || replyToken.isEmpty then none else some _) = _
  rw [hid.not_isEmpty, htoken.not_isEmpty]
  rfl

/-- A text that is read as a tag is the text of this tag. -/
theorem parseReplyTag_some {tag : String} {t : ReplyTag} (h : parseReplyTag tag = some t) :
    tag.toList = 't' :: (t.ticketId.toList ++ '.' :: t.replyToken.toList) := by
  obtain ⟨rest, hdrop, h⟩ := Option.bind_eq_some_iff.mp h
  obtain ⟨parts, hsplit, h⟩ := Option.bind_eq_some_iff.mp h
  obtain ⟨ticketId, replyToken⟩ := parts
  have ht : t = ⟨ticketId, replyToken⟩ := by
    simp only at h
    split at h
    · cases h
    · exact (Option.some.inj h).symm
  subst ht
  rw [dropStart_some hdrop, (splitOnce_some hsplit).1]
  rfl

/-! ### The address an instance sends from -/

/-- `addInboundAddress` stores the row. -/
def StoredAddress (lower debug : String → String) (a : InboundAddress) : Prop :=
  ∃ raw, classifyForStorage lower debug raw = .ok (a.address, a.kind)

/-- A stored address is lower case, and its kind says whether its local part is `*`. -/
theorem StoredAddress.parts {lower debug : String → String} {a : InboundAddress}
    (h : StoredAddress lower debug a) : ∃ s localPart domain, a.address = lower s ∧
      splitOnce '@' a.address = some (localPart, domain) ∧
      (a.kind = .wildcard → localPart = "*") := by
  obtain ⟨raw, hraw⟩ := h
  unfold classifyForStorage at hraw
  simp only at hraw
  split at hraw
  · cases hraw
  · rename_i localPart domain hsplit
    refine ⟨trim raw, localPart, domain, ?_⟩
    split at hraw
    · cases hraw
    · split at hraw
      · rename_i hstar
        obtain ⟨haddress, hkind⟩ := Prod.mk.inj (Except.ok.inj hraw)
        rw [← haddress]
        exact ⟨rfl, hsplit, fun _ => hstar⟩
      · split at hraw
        · cases hraw
        · split at hraw
          · cases hraw
          · obtain ⟨haddress, hkind⟩ := Prod.mk.inj (Except.ok.inj hraw)
            rw [← haddress, ← hkind]
            exact ⟨rfl, hsplit, nofun⟩

theorem earlierAddress_refl (a : InboundAddress) : earlierAddress a a := by
  simp [earlierAddress]

theorem earlierAddress_total (a b : InboundAddress) (h : ¬ earlierAddress a b) :
    earlierAddress b a := by
  simp only [earlierAddress, Bool.or_eq_true, Bool.and_eq_true, decide_eq_true_eq,
    beq_iff_eq] at h ⊢
  rcases Nat.lt_trichotomy a.createdAt b.createdAt with hlt | heq | hgt
  · exact absurd (.inl hlt) h
  · refine .inr ⟨heq.symm, ?_⟩
    rcases String.le_total a.address b.address with hle | hle
    · exact absurd (.inr ⟨heq, hle⟩) h
    · exact hle
  · exact .inl hgt

theorem earlierAddress_trans {a b c : InboundAddress} (hab : earlierAddress a b)
    (hbc : earlierAddress b c) : earlierAddress a c := by
  simp only [earlierAddress, Bool.or_eq_true, Bool.and_eq_true, decide_eq_true_eq,
    beq_iff_eq] at hab hbc ⊢
  rcases hab with hab | ⟨hab, hle⟩
  · rcases hbc with hbc | ⟨hbc, -⟩
    · exact .inl (by omega)
    · exact .inl (by omega)
  · rcases hbc with hbc | ⟨hbc, hle'⟩
    · exact .inl (by omega)
    · exact .inr ⟨hab.trans hbc, String.le_trans hle hle'⟩

/-- Two earliest addresses are the same address. -/
theorem earlierAddress_antisymm {a b : InboundAddress} (hab : earlierAddress a b)
    (hba : earlierAddress b a) : a.address = b.address := by
  simp only [earlierAddress, Bool.or_eq_true, Bool.and_eq_true, decide_eq_true_eq,
    beq_iff_eq] at hab hba
  rcases hab with hab | ⟨hab, hle⟩
  · rcases hba with hba | ⟨hba, -⟩ <;> omega
  · rcases hba with hba | ⟨-, hle'⟩
    · omega
    · exact String.le_antisymm hle hle'

/-- No address of the kind is earlier. -/
def Earliest (kind : AddressKind) (addresses : List InboundAddress) (a : InboundAddress) : Prop :=
  a ∈ addresses ∧ a.kind = kind ∧ ∀ b ∈ addresses, b.kind = kind → earlierAddress a b

/-- One step of the choice. -/
def chooseEarlier (best : Option InboundAddress) (a : InboundAddress) : Option InboundAddress :=
  match best with
  | none => some a
  | some b => if earlierAddress b a then some b else some a

/-- What the choice among `rest` makes of the earliest address so far. -/
theorem foldl_chooseEarlier (rest : List InboundAddress) (best : InboundAddress) :
    ∃ m, rest.foldl chooseEarlier (some best) = some m ∧ (m = best ∨ m ∈ rest) ∧
      earlierAddress m best ∧ ∀ b ∈ rest, earlierAddress m b := by
  induction rest generalizing best with
  | nil => exact ⟨best, rfl, .inl rfl, earlierAddress_refl best, nofun⟩
  | cons a rest ih =>
      rw [List.foldl_cons]
      by_cases hbest : earlierAddress best a
      · have hstep : chooseEarlier (some best) a = some best := if_pos hbest
        obtain ⟨m, hm, hmem, hmb, hrest⟩ := ih best
        rw [hstep]
        refine ⟨m, hm, hmem.imp_right (List.mem_cons_of_mem a), hmb, ?_⟩
        rw [List.forall_mem_cons]
        exact ⟨earlierAddress_trans hmb hbest, hrest⟩
      · have hstep : chooseEarlier (some best) a = some a := if_neg hbest
        obtain ⟨m, hm, hmem, hma, hrest⟩ := ih a
        rw [hstep]
        refine ⟨m, hm, .inr ?_, earlierAddress_trans hma
          (earlierAddress_total best a hbest), ?_⟩
        · rcases hmem with rfl | hmem
          · exact List.mem_cons_self
          · exact List.mem_cons_of_mem a hmem
        · rw [List.forall_mem_cons]
          exact ⟨hma, hrest⟩

/-- The chosen address of a kind is an earliest one. -/
theorem earliestAddress_some {kind : AddressKind} {addresses : List InboundAddress}
    {m : InboundAddress} (h : earliestAddress kind addresses = some m) :
    Earliest kind addresses m := by
  have hfold : (addresses.filter (·.kind = kind)).foldl chooseEarlier none = some m := h
  have hmem : ∀ {a}, a ∈ addresses.filter (·.kind = kind) ↔ a ∈ addresses ∧ a.kind = kind := by
    intro a
    rw [List.mem_filter, decide_eq_true_eq]
  cases hof : addresses.filter (·.kind = kind) with
  | nil =>
      rw [hof] at hfold
      cases hfold
  | cons a rest =>
      rw [hof] at hfold hmem
      obtain ⟨m', hm', hor, hma, hrest⟩ := foldl_chooseEarlier rest a
      have hm : some m' = some m := hm'.symm.trans hfold
      obtain rfl := Option.some.inj hm
      have hin : m' ∈ a :: rest := hor.elim (fun heq => heq ▸ List.mem_cons_self)
        (List.mem_cons_of_mem a)
      refine ⟨(hmem.mp hin).1, (hmem.mp hin).2, fun b hb hkind => ?_⟩
      rcases List.mem_cons.mp (hmem.mpr ⟨hb, hkind⟩) with rfl | hb
      · exact hma
      · exact hrest b hb

theorem earliestAddress_none {kind : AddressKind} {addresses : List InboundAddress}
    (h : earliestAddress kind addresses = none) : ∀ a ∈ addresses, a.kind ≠ kind := by
  intro a ha hkind
  have hfold : (addresses.filter (·.kind = kind)).foldl chooseEarlier none = none := h
  cases hof : addresses.filter (·.kind = kind) with
  | nil =>
      have hin : a ∈ addresses.filter (·.kind = kind) :=
        List.mem_filter.mpr ⟨ha, decide_eq_true hkind⟩
      rw [hof] at hin
      cases hin
  | cons b rest =>
      rw [hof] at hfold
      obtain ⟨m, hm, -⟩ := foldl_chooseEarlier rest b
      have : some m = none := hm.symm.trans hfold
      cases this

/-! ### There and back -/

section
variable {lower debug : String → String} {addresses : List InboundAddress}
variable {ticketId replyToken : String}

/-- The reply address of a ticket leads back to the instance, and to the ticket alone. -/
def ThreadsBack (lower debug : String → String) (addresses : List InboundAddress)
    (ticketId replyToken : String) : Prop :=
  ∀ fromAddress replyTo, primaryInboundAddress addresses = some fromAddress →
    replyToAddress debug fromAddress ticketId replyToken = .ok replyTo →
    (∃ a ∈ addresses, a.address ∈ lookupKeys lower replyTo) ∧
      extractReplyTags lower [replyTo] = [⟨ticketId, replyToken⟩]

/-- The local part of the address has a `+`. -/
def PlusInLocalPart (address : String) : Prop :=
  ∃ localPart domain, splitOnce '@' address = some (localPart, domain) ∧ '+' ∈ localPart.toList

/-- The reply address, written out. -/
theorem replyToAddress_eq {fromAddress localPart domain : String} (debug : String → String)
    (ticketId replyToken : String) (h : splitOnce '@' fromAddress = some (localPart, domain)) :
    ∃ replyTo, replyToAddress debug fromAddress ticketId replyToken = .ok replyTo ∧
      replyTo.toList = localPart.toList ++ '+' :: 't' :: (ticketId.toList ++ '.' ::
        replyToken.toList) ++ '@' :: domain.toList := by
  refine ⟨s!"{localPart}+t{ticketId}.{replyToken}@{domain}", by rw [replyToAddress, h], ?_⟩
  simp [String.toList_append, toString]

/-- The tags of one recipient. -/
theorem extractReplyTags_singleton (replyTo : String) : extractReplyTags lower [replyTo] =
    (((normalizeRecipient lower replyTo).tag.bind parseReplyTag).toList) := by
  unfold extractReplyTags replyTagsFrom
  cases (normalizeRecipient lower replyTo).tag.bind parseReplyTag <;> rfl

/-- How a recipient with a tag is normalized. -/
theorem normalizeRecipient_tagged {raw base tag domain : String} (lower : String → String)
    (h : raw.toList = base.toList ++ '+' :: tag.toList ++ '@' :: domain.toList)
    (hbase : '+' ∉ base.toList) (hbase' : '@' ∉ base.toList) (htag : '@' ∉ tag.toList) :
    normalizeRecipient lower raw =
      { address := lower base ++ "@" ++ lower domain, tag := some tag,
        domain := some (lower domain) } := by
  have hat : '@' ∉ (String.ofList (base.toList ++ '+' :: tag.toList)).toList := by
    rw [String.toList_ofList, List.mem_append, List.mem_cons]
    rintro (hmem | hmem | hmem)
    · exact hbase' hmem
    · cases hmem
    · exact htag hmem
  have hsplit : splitOnce '@' raw =
      some (String.ofList (base.toList ++ '+' :: tag.toList), domain) := by
    refine splitOnce_eq ?_ hat
    rw [h, String.toList_ofList]
  have hplus : splitOnce '+' (String.ofList (base.toList ++ '+' :: tag.toList)) =
      some (base, tag) := splitOnce_eq String.toList_ofList hbase
  unfold normalizeRecipient
  rw [hsplit]
  simp only
  rw [hplus]

/-- A character that is in no nanoid is in no tag, unless it is one of its own. -/
theorem not_mem_tag {c : Char} (hid : IsNanoid ticketId) (htoken : IsNanoid replyToken)
    (hc : c ∉ nanoidAlphabet) (ht : c ≠ 't') (hdot : c ≠ '.') :
    c ∉ 't' :: (ticketId.toList ++ '.' :: replyToken.toList) := by
  rw [List.mem_cons, List.mem_append, List.mem_cons]
  rintro (hmem | hmem | hmem | hmem)
  · exact ht hmem
  · exact hid.not_mem hc hmem
  · exact hdot hmem
  · exact htoken.not_mem hc hmem

/-- A reply address that is made from an address without a `+` is normalized to it. -/
theorem threads_back_of {fromAddress replyTo localPart domain : String} (lower : String → String)
    (hsplit : splitOnce '@' fromAddress = some (localPart, domain))
    (hreply : replyToAddress debug fromAddress ticketId replyToken = .ok replyTo)
    (hid : IsNanoid ticketId) (htoken : IsNanoid replyToken) (hplus : '+' ∉ localPart.toList) :
    (normalizeRecipient lower replyTo).address = lower localPart ++ "@" ++ lower domain ∧
      (normalizeRecipient lower replyTo).domain = some (lower domain) ∧
      extractReplyTags lower [replyTo] = [⟨ticketId, replyToken⟩] := by
  obtain ⟨replyTo', hreply', hlist⟩ := replyToAddress_eq debug ticketId replyToken hsplit
  obtain rfl : replyTo = replyTo' := Except.ok.inj (hreply.symm.trans hreply')
  have htag : (String.ofList ('t' :: (ticketId.toList ++ '.' :: replyToken.toList))).toList =
      't' :: (ticketId.toList ++ '.' :: replyToken.toList) := String.toList_ofList
  rw [← htag] at hlist
  have hnormal := normalizeRecipient_tagged lower hlist hplus (splitOnce_some hsplit).2 (by
    rw [htag]
    exact not_mem_tag hid htoken (by decide) (by decide) (by decide))
  refine ⟨by rw [hnormal], by rw [hnormal], ?_⟩
  rw [extractReplyTags_singleton, hnormal]
  show (parseReplyTag _).toList = _
  rw [parseReplyTag_eq htag hid htoken]
  rfl

/-- A reply address that is made from an address with a `+` does not carry the tag of the ticket. -/
theorem lost_of_plus {fromAddress replyTo localPart domain : String} (lower : String → String)
    (hsplit : splitOnce '@' fromAddress = some (localPart, domain))
    (hreply : replyToAddress debug fromAddress ticketId replyToken = .ok replyTo)
    (hid : IsNanoid ticketId) (htoken : IsNanoid replyToken) (hplus : '+' ∈ localPart.toList) :
    extractReplyTags lower [replyTo] ≠ [⟨ticketId, replyToken⟩] := by
  obtain ⟨replyTo', hreply', hlist⟩ := replyToAddress_eq debug ticketId replyToken hsplit
  obtain rfl : replyTo = replyTo' := Except.ok.inj (hreply.symm.trans hreply')
  have hatLocal : '@' ∉ localPart.toList := (splitOnce_some hsplit).2
  -- the recipient is cut at the first `+` of the local part, and the rest of it is the tag
  obtain ⟨base, extra, hlocal, hbase⟩ := List.eq_append_cons_of_mem hplus
  have htag := not_mem_tag hid htoken (c := '@') (by decide) (by decide) (by decide)
  rw [hlocal, List.mem_append, List.mem_cons, not_or, not_or] at hatLocal
  obtain ⟨tag, htagList⟩ : ∃ tag : String, tag.toList =
      extra ++ '+' :: 't' :: (ticketId.toList ++ '.' :: replyToken.toList) :=
    ⟨String.ofList _, String.toList_ofList⟩
  obtain ⟨base, rfl⟩ : ∃ b : String, b.toList = base := ⟨String.ofList base, String.toList_ofList⟩
  have hat : '@' ∉ tag.toList := by
    rw [htagList, List.mem_append, List.mem_cons]
    rintro (hmem | hmem | hmem)
    · exact hatLocal.2.2 hmem
    · cases hmem
    · exact htag hmem
  have hraw : replyTo.toList = base.toList ++ '+' :: tag.toList ++ '@' :: domain.toList := by
    rw [hlist, hlocal, htagList]
    simp
  have hnormal := normalizeRecipient_tagged lower hraw hbase hatLocal.1 hat
  intro hone
  rw [extractReplyTags_singleton, hnormal] at hone
  have hparse : parseReplyTag tag = some ⟨ticketId, replyToken⟩ := by
    rw [← Option.toList_eq_singleton_iff]
    exact hone
  have hchars := parseReplyTag_some hparse
  rw [htagList] at hchars
  have hmem : '+' ∈ 't' :: (ticketId.toList ++ '.' :: replyToken.toList) := by
    rw [← hchars]
    exact List.mem_append_right extra List.mem_cons_self
  exact not_mem_tag hid htoken (by decide) (by decide) (by decide) hmem

/-- The parts of a stored address are lower case. -/
theorem StoredAddress.lower_parts {a : InboundAddress} {localPart domain : String}
    (hlower : LowerLaws lower) (h : StoredAddress lower debug a)
    (hsplit : splitOnce '@' a.address = some (localPart, domain)) :
    lower localPart = localPart ∧ lower domain = domain := by
  obtain ⟨s, localPart', domain', haddress, hsplit', -⟩ := h.parts
  have hlist : (lower s).toList = localPart.toList ++ '@' :: domain.toList := by
    rw [← haddress]
    exact (splitOnce_some hsplit).1
  constructor
  · exact hlower.part s localPart [] ('@' :: domain.toList) (by rw [hlist]; rfl)
  · exact hlower.part s domain (localPart.toList ++ ['@']) [] (by rw [hlist]; simp)

/-- An address is its parts. -/
theorem address_eq_parts {address localPart domain : String}
    (h : splitOnce '@' address = some (localPart, domain)) :
    localPart ++ "@" ++ domain = address := by
  rw [← String.toList_inj, (splitOnce_some h).1, String.toList_append, String.toList_append,
    List.append_assoc]
  rfl

/-- What a stored wildcard is, and what is sent from in its domain. -/
theorem StoredAddress.wildcard_parts {a : InboundAddress} {domain : String}
    (h : StoredAddress lower debug a) (hkind : a.kind = .wildcard)
    (hdomain : dropStart "*@" a.address = some domain) :
    splitOnce '@' a.address = some ("*", domain) ∧
      splitOnce '@' ("support@" ++ domain) = some ("support", domain) := by
  obtain ⟨s, localPart, domain', -, hsplit, hstar⟩ := h.parts
  obtain rfl := hstar hkind
  have hlist : a.address.toList = "*@".toList ++ domain.toList := dropStart_some hdomain
  constructor
  · refine splitOnce_eq hlist (by decide)
  · exact splitOnce_eq String.toList_append (by decide)

/-- The address that an instance sends from: its earliest exact one, or one in the domain of its
earliest wildcard. -/
theorem primaryInboundAddress_cases {fromAddress : String}
    (h : primaryInboundAddress addresses = some fromAddress) :
    (∃ a, Earliest .exact addresses a ∧ fromAddress = a.address) ∨
      (∀ a ∈ addresses, a.kind ≠ .exact) ∧ ∃ a domain, Earliest .wildcard addresses a ∧
        dropStart "*@" a.address = some domain ∧ fromAddress = "support@" ++ domain := by
  unfold primaryInboundAddress at h
  cases hexact : earliestAddress .exact addresses with
  | some a =>
      rw [hexact] at h
      exact .inl ⟨a, earliestAddress_some hexact, (Option.some.inj h).symm⟩
  | none =>
      rw [hexact] at h
      obtain ⟨a, ha, h⟩ := Option.bind_eq_some_iff.mp h
      obtain ⟨domain, hdomain, h⟩ := Option.bind_eq_some_iff.mp h
      exact .inr ⟨earliestAddress_none hexact, a, domain, earliestAddress_some ha, hdomain,
        (Option.some.inj h).symm⟩

/-- The primary address of an instance with an exact address is the earliest of them. -/
theorem primaryInboundAddress_of_earliest {a : InboundAddress}
    (h : Earliest .exact addresses a) : primaryInboundAddress addresses = some a.address := by
  unfold primaryInboundAddress
  cases hexact : earliestAddress .exact addresses with
  | none => exact absurd h.2.1 (earliestAddress_none hexact a h.1)
  | some b =>
      have hb := earliestAddress_some hexact
      exact congrArg some (earlierAddress_antisymm (hb.2.2 a h.1 h.2.1) (h.2.2 b hb.1 hb.2.1))

/-- Replies thread back exactly if the address that the instance sends from has no `+` in its local
part. -/
theorem threads_back_iff (hlower : LowerLaws lower)
    (hstored : ∀ a ∈ addresses, StoredAddress lower debug a)
    (hid : IsNanoid ticketId) (htoken : IsNanoid replyToken) :
    ThreadsBack lower debug addresses ticketId replyToken ↔
      ∀ a, Earliest .exact addresses a → ¬ PlusInLocalPart a.address := by
  constructor
  · rintro hback a ha ⟨localPart, domain, hsplit, hplus⟩
    obtain ⟨replyTo, hreply, -⟩ := replyToAddress_eq debug ticketId replyToken hsplit
    have htags := (hback a.address replyTo (primaryInboundAddress_of_earliest ha) hreply).2
    exact lost_of_plus lower hsplit hreply hid htoken hplus htags
  · intro hplain fromAddress replyTo hfrom hreply
    rcases primaryInboundAddress_cases hfrom with ⟨a, ha, rfl⟩ | ⟨-, a, domain, ha, hdomain, rfl⟩
    · -- an exact address is found under its own key
      obtain ⟨-, localPart, domain, -, hsplit, -⟩ := (hstored a ha.1).parts
      have hplus : '+' ∉ localPart.toList := fun hmem =>
        hplain a ha ⟨localPart, domain, hsplit, hmem⟩
      obtain ⟨haddress, -, htags⟩ := threads_back_of lower hsplit hreply hid htoken hplus
      obtain ⟨hlocal, hdom⟩ := (hstored a ha.1).lower_parts hlower hsplit
      refine ⟨⟨a, ha.1, ?_⟩, htags⟩
      have hkey : (normalizeRecipient lower replyTo).address = a.address := by
        rw [haddress, hlocal, hdom, address_eq_parts hsplit]
      rw [← hkey]
      exact List.mem_cons_self
    · -- a wildcard is found under the key of its domain
      obtain ⟨hsplit, hsupport⟩ := (hstored a ha.1).wildcard_parts ha.2.1 hdomain
      obtain ⟨-, hdomainOf, htags⟩ := threads_back_of lower hsupport hreply hid htoken
        (by decide)
      have hdom := ((hstored a ha.1).lower_parts hlower hsplit).2
      refine ⟨⟨a, ha.1, ?_⟩, htags⟩
      have hkey : a.address = wildcardForDomain domain := (address_eq_parts hsplit).symm
      have hkeys : lookupKeys lower replyTo =
          [(normalizeRecipient lower replyTo).address, wildcardForDomain domain] := by
        simp only [lookupKeys, hdomainOf, hdom]
      rw [hkeys, hkey]
      exact List.mem_cons_of_mem _ List.mem_cons_self

/-- The `Reply-To` of a mail is the reply address of its ticket. -/
theorem buildOutbound_replyTo {inst : Instance} {ticket : Ticket}
    {requesterEmails ccEmails : List String} {body nonce : String} {threading : Threading}
    {mail : Mime} (h : buildOutbound lower debug inst addresses ticket requesterEmails ccEmails body
      threading nonce = .ok mail) :
    primaryInboundAddress addresses = some mail.fromAddress ∧
      replyToAddress debug mail.fromAddress ticket.id ticket.replyToken = .ok mail.replyTo := by
  unfold buildOutbound at h
  split at h
  · cases h
  · rename_i fromAddress hfrom
    simp only at h
    split at h
    · cases h
    · rename_i replyTo hreply
      split at h
      · cases h
      · obtain rfl := Except.ok.inj h
        exact ⟨hfrom, hreply⟩

/-- The reply to a mail threads back to its ticket if the address of the mail has no `+`. -/
theorem buildOutbound_threads_back {inst : Instance} {ticket : Ticket}
    {requesterEmails ccEmails : List String} {body nonce : String} {threading : Threading}
    {mail : Mime} (hlower : LowerLaws lower)
    (hstored : ∀ a ∈ addresses, StoredAddress lower debug a)
    (hid : IsNanoid ticket.id) (htoken : IsNanoid ticket.replyToken)
    (hplain : ∀ a, Earliest .exact addresses a → ¬ PlusInLocalPart a.address)
    (h : buildOutbound lower debug inst addresses ticket requesterEmails ccEmails body
      threading nonce = .ok mail) :
    (∃ a ∈ addresses, a.address ∈ lookupKeys lower mail.replyTo) ∧
      extractReplyTags lower [mail.replyTo] = [⟨ticket.id, ticket.replyToken⟩] := by
  obtain ⟨hfrom, hreply⟩ := buildOutbound_replyTo h
  exact (threads_back_iff hlower hstored hid htoken).mpr hplain _ _ hfrom hreply

end

/-! ### The ASCII case -/

theorem toLower_toLower (c : Char) : c.toLower.toLower = c.toLower := by
  by_cases h : c.val ≥ 'A'.val ∧ c.val ≤ 'Z'.val
  · have hval : c.toLower.val = c.val + ('a'.val - 'A'.val) := by
      unfold Char.toLower
      rw [dif_pos h]
    have hno : ¬ (c.toLower.val ≥ 'A'.val ∧ c.toLower.val ≤ 'Z'.val) := by
      rw [hval]
      simp only [UInt32.le_iff_toNat_le, ge_iff_le, UInt32.toNat_add] at *
      have ha : ('A'.val).toNat = 65 := by decide
      have hz : ('Z'.val).toNat = 90 := by decide
      have hd : ('a'.val - 'A'.val).toNat = 32 := by decide
      omega
    exact dif_neg hno
  · have hc : c.toLower = c := dif_neg h
    rw [hc, hc]

/-- The lower case of ASCII is a lower case. -/
theorem asciiLower_laws : LowerLaws asciiLower where
  part := by
    intro s a before after h
    have hlist : s.toList.map Char.toLower = before ++ a.toList ++ after := by
      rw [← h]
      exact String.toList_ofList.symm
    have hparts : a.toList.map Char.toLower = a.toList := by
      refine (List.map_congr_left fun c hc => ?_).trans (List.map_id _)
      have hmem : c ∈ s.toList.map Char.toLower := by
        rw [hlist]
        exact List.mem_append_left after (List.mem_append_right before hc)
      obtain ⟨d, -, rfl⟩ := List.mem_map.mp hmem
      exact toLower_toLower d
    rw [← String.toList_inj]
    exact String.toList_ofList.trans hparts
  support := by decide +kernel

/-- The addresses of an instance: a wildcard and an exact address. -/
def deskAddresses : List InboundAddress :=
  [{ address := "*@example.org", instanceId := "I", kind := .wildcard, createdAt := 1 },
    { address := "help@example.org", instanceId := "I", kind := .exact, createdAt := 2 }]

theorem deskAddresses_thread_back :
    ThreadsBack asciiLower id deskAddresses "aB3" "tokenToken" :=
  (threads_back_iff asciiLower_laws (by
    rw [deskAddresses, List.forall_mem_cons, List.forall_mem_singleton]
    exact ⟨⟨"*@Example.org", by decide +kernel⟩, ⟨" Help@example.org", by decide +kernel⟩⟩)
    (by decide +kernel) (by decide +kernel)).mpr (by
    rintro a ⟨ha, hkind, -⟩ ⟨localPart, domain, hsplit, hplus⟩
    rw [deskAddresses, List.mem_cons, List.mem_singleton] at ha
    rcases ha with rfl | rfl
    · cases hkind
    · have hhelp : splitOnce '@' "help@example.org" = some ("help", "example.org") := by
        decide +kernel
      obtain ⟨rfl, rfl⟩ := Prod.mk.inj (Option.some.inj (hsplit.symm.trans hhelp))
      exact absurd hplus (by decide))

/-- An exact address with a `+` of its own: the tag of the reply is cut at that `+`. -/
theorem plus_address_lost : ¬ ∀ (lower debug : String → String) (addresses : List InboundAddress)
    (ticketId replyToken : String), LowerLaws lower →
      (∀ a ∈ addresses, StoredAddress lower debug a) → IsNanoid ticketId → IsNanoid replyToken →
      ThreadsBack lower debug addresses ticketId replyToken := by
  intro hall
  have hback := hall asciiLower id
    [{ address := "a+b@x.org", instanceId := "I", kind := .exact, createdAt := 0 }] "7" "8"
    asciiLower_laws
    (by
      intro a ha
      obtain rfl := List.mem_singleton.mp ha
      exact ⟨"a+b@x.org", by decide +kernel⟩)
    (by decide +kernel) (by decide +kernel)
    "a+b@x.org" "a+b+t7.8@x.org" (by decide +kernel) (by decide +kernel)
  have hlost : extractReplyTags asciiLower ["a+b+t7.8@x.org"] = [] := by decide +kernel
  rw [hlost] at hback
  cases hback.2

end Microticket

import Microticket.ReplyAddresses

/-! # Own addresses do not route back

Whether a recipient is one of the instance's own addresses is asked in two places, by the parts of
the recipient, while routing asks by keys.  For rows that `classify_for_storage` made, the three give
the same answer (`isOwnAddress_iff`), so what the two filters keep is not routed to a row of the
instance (`own_addresses_stay_out`). -/

namespace Microticket

open RustText

/-- What `str::to_lowercase` does to lower case, and to the separators of an address. -/
structure KeepsSeparators (lower : String → String) : Prop where
  again : ∀ s, lower (lower s) = lower s
  at_mem : ∀ s, '@' ∈ (lower s).toList → '@' ∈ s.toList
  plus_mem : ∀ s, '+' ∈ (lower s).toList → '+' ∈ s.toList

section
variable {lower debug : String → String} {addresses : List InboundAddress}

/-! ### Normalized recipients -/

/-- A text that is not split has no separator. -/
theorem not_mem_of_splitOnce {c : Char} {s : String} (h : splitOnce c s = none) : c ∉ s.toList := by
  intro hmem
  obtain ⟨before, after, hlist, hbefore⟩ := List.eq_append_cons_of_mem hmem
  have hsplit : splitOnce c s = some (String.ofList before, String.ofList after) := by
    apply splitOnce_eq
    · simpa using hlist
    · simpa using hbefore
  rw [h] at hsplit
  cases hsplit

variable (lower) in
theorem normalizeRecipient_of_none {raw : String} (h : splitOnce '@' raw = none) :
    normalizeRecipient lower raw = ⟨lower raw, none, none⟩ := by
  unfold normalizeRecipient
  rw [h]

variable (lower) in
/-- With a domain, the address is made from the local part up to its first `+`. -/
theorem normalizeRecipient_of_some {raw localPart domain : String}
    (h : splitOnce '@' raw = some (localPart, domain)) :
    ∃ base tag, '@' ∉ base.toList ∧ '+' ∉ base.toList ∧
      normalizeRecipient lower raw =
        ⟨lower base ++ "@" ++ lower domain, tag, some (lower domain)⟩ := by
  have hno : '@' ∉ localPart.toList := (splitOnce_some h).2
  unfold normalizeRecipient
  rw [h]
  dsimp only
  cases hplus : splitOnce '+' localPart with
  | none => exact ⟨localPart, none, hno, not_mem_of_splitOnce hplus, rfl⟩
  | some parts =>
      obtain ⟨base, tag⟩ := parts
      obtain ⟨hlist, hbase⟩ := splitOnce_some hplus
      refine ⟨base, some tag, fun hmem => hno ?_, hbase, rfl⟩
      rw [hlist]
      exact List.mem_append_left _ hmem

/-- The parts of a lowered address. -/
theorem splitOnce_address (hlower : KeepsSeparators lower) {base : String}
    (hbase : '@' ∉ base.toList) (domain : String) :
    splitOnce '@' (lower base ++ "@" ++ domain) = some (lower base, domain) := by
  apply splitOnce_eq
  · rw [String.toList_append, String.toList_append, List.append_assoc]
    rfl
  · intro hmem
    exact hbase (hlower.at_mem base hmem)

/-- A normalized address is looked up under the same keys. -/
theorem lookupKeys_normalized (hlower : KeepsSeparators lower) (raw : String) :
    lookupKeys lower (normalizeRecipient lower raw).address = lookupKeys lower raw := by
  cases hsplit : splitOnce '@' raw with
  | none =>
      have hnone : splitOnce '@' (lower raw) = none := by
        apply splitOnce_none
        intro hmem
        exact not_mem_of_splitOnce hsplit (hlower.at_mem raw hmem)
      have hraw := normalizeRecipient_of_none lower hsplit
      have hagain := normalizeRecipient_of_none lower hnone
      unfold lookupKeys
      rw [hraw, hagain, hlower.again]
  | some parts =>
      obtain ⟨localPart, domain⟩ := parts
      obtain ⟨base, tag, hat, hplus, hraw⟩ := normalizeRecipient_of_some lower hsplit
      have hparts := splitOnce_address hlower hat (lower domain)
      have hbase : splitOnce '+' (lower base) = none := by
        apply splitOnce_none
        intro hmem
        exact hplus (hlower.plus_mem base hmem)
      have hagain : normalizeRecipient lower (lower base ++ "@" ++ lower domain) =
          ⟨lower base ++ "@" ++ lower domain, none, some (lower domain)⟩ := by
        unfold normalizeRecipient
        rw [hparts]
        dsimp only
        rw [hbase]
        dsimp only
        rw [hlower.again, hlower.again]
      unfold lookupKeys
      rw [hraw, hagain]

/-! ### Rows -/

/-- A stored address is a wildcard exactly if its local part is `*`. -/
theorem StoredAddress.kind_iff {a : InboundAddress} (h : StoredAddress lower debug a) :
    ∃ localPart domain, splitOnce '@' a.address = some (localPart, domain) ∧
      (a.kind = .wildcard ↔ localPart = "*") := by
  obtain ⟨raw, hraw⟩ := h
  unfold classifyForStorage at hraw
  simp only at hraw
  split at hraw
  · cases hraw
  · rename_i localPart domain hsplit
    split at hraw
    · cases hraw
    · split at hraw
      · rename_i hstar
        obtain ⟨haddress, hkind⟩ := Prod.mk.inj (Except.ok.inj hraw)
        rw [← haddress, ← hkind]
        exact ⟨localPart, domain, hsplit, fun _ => hstar, fun _ => rfl⟩
      · rename_i hstar
        split at hraw
        · cases hraw
        · split at hraw
          · cases hraw
          · obtain ⟨haddress, hkind⟩ := Prod.mk.inj (Except.ok.inj hraw)
            rw [← haddress, ← hkind]
            exact ⟨localPart, domain, hsplit, fun h => (nomatch h), fun h => absurd h hstar⟩

/-- The test of one row: the two filters ask for the kind of the row, the lookup only for its key. -/
theorem own_row_iff (hlower : KeepsSeparators lower) {a : InboundAddress}
    (ha : StoredAddress lower debug a) (candidate : String) :
    (match a.kind with
      | .exact => a.address == (normalizeRecipient lower candidate).address
      | .wildcard => dropStart "*@" a.address == (normalizeRecipient lower candidate).domain) =
        true ↔ a.address ∈ lookupKeys lower candidate := by
  obtain ⟨rowLocal, rowDomain, hrow, hkind⟩ := ha.kind_iff
  have hlist := (splitOnce_some hrow).1
  cases hsplit : splitOnce '@' candidate with
  | none =>
      have hn := normalizeRecipient_of_none lower hsplit
      have hno : a.address ≠ lower candidate := by
        intro heq
        apply not_mem_of_splitOnce hsplit
        apply hlower.at_mem
        rw [← heq, hlist]
        exact List.mem_append_right _ List.mem_cons_self
      unfold lookupKeys
      rw [hn]
      cases hk : a.kind with
      | exact => simp [hno]
      | wildcard =>
          obtain rfl := hkind.mp hk
          have hdrop : dropStart "*@" a.address = some rowDomain := dropStart_eq hlist
          simp [hno, hdrop]
  | some parts =>
      obtain ⟨localPart, domain⟩ := parts
      obtain ⟨base, tag, hat, -, hn⟩ := normalizeRecipient_of_some lower hsplit
      have hparts := splitOnce_address hlower hat (lower domain)
      have hwild : splitOnce '@' ("*@" ++ lower domain) = some ("*", lower domain) :=
        splitOnce_eq String.toList_append (by decide)
      unfold lookupKeys wildcardForDomain
      rw [hn]
      cases hk : a.kind with
      | exact =>
          have hne : a.address ≠ "*@" ++ lower domain := by
            intro heq
            rw [heq, hwild] at hrow
            obtain ⟨hstar, -⟩ := Prod.mk.inj (Option.some.inj hrow)
            have hwildcard := hkind.mpr hstar.symm
            rw [hk] at hwildcard
            cases hwildcard
          simp [hne]
      | wildcard =>
          obtain rfl := hkind.mp hk
          have hdrop : dropStart "*@" a.address = some rowDomain := dropStart_eq hlist
          have haddress : a.address = "*@" ++ rowDomain := (address_eq_parts hrow).symm
          have hexact : a.address = lower base ++ "@" ++ lower domain →
              rowDomain = lower domain := by
            intro heq
            rw [heq, hparts] at hrow
            exact (Prod.mk.inj (Option.some.inj hrow)).2.symm
          simp only [hdrop, beq_iff_eq, Option.some.injEq, List.mem_cons, List.not_mem_nil, or_false]
          constructor
          · intro heq
            right
            rw [haddress, heq]
          · rintro (heq | heq)
            · exact hexact heq
            · rw [heq, hwild] at hrow
              exact (Prod.mk.inj (Option.some.inj hrow)).2.symm

/-! ### The filters -/

/-- A lookup key of the recipient is the address of one of the rows. -/
def RoutesBack (lower : String → String) (addresses : List InboundAddress) (recipient : String) :
    Prop :=
  ∃ key ∈ lookupKeys lower recipient, ∃ a ∈ addresses, a.address = key

theorem resolve_isSome_iff (recipient : String) :
    (resolve lower (fun key => addresses.any (·.address == key)) [recipient]).isSome = true ↔
      RoutesBack lower addresses recipient := by
  simp [resolve, RoutesBack]

theorem isOwnAddress_iff (hlower : KeepsSeparators lower)
    (hstored : ∀ a ∈ addresses, StoredAddress lower debug a) (candidate : String) :
    isOwnAddress lower addresses candidate = true ↔ RoutesBack lower addresses candidate := by
  unfold isOwnAddress RoutesBack
  rw [List.any_eq_true]
  constructor
  · rintro ⟨a, ha, hown⟩
    exact ⟨a.address, (own_row_iff hlower (hstored a ha) candidate).mp hown, a, ha, rfl⟩
  · rintro ⟨key, hkey, a, ha, rfl⟩
    exact ⟨a, ha, (own_row_iff hlower (hstored a ha) candidate).mpr hkey⟩

/-- A mail is sent to addresses that are not own addresses. -/
theorem buildOutbound_own {inst : Instance} {ticket : Ticket}
    {requesterEmails ccEmails : List String} {body nonce : String} {threading : Threading} {mail : Mime}
    (hmail : buildOutbound lower debug inst addresses ticket requesterEmails ccEmails body threading
      nonce = .ok mail) {email : String} (hemail : email ∈ mail.recipients ++ mail.ccs) :
    isOwnAddress lower addresses email = false := by
  unfold buildOutbound at hmail
  split at hmail
  · cases hmail
  dsimp only at hmail
  split at hmail
  · cases hmail
  split at hmail
  · cases hmail
  · cases hmail
    rw [← List.filter_append] at hemail
    simpa using (List.mem_filter.mp hemail).2

/-- What the loop of `strip_own_addresses` keeps is the normalized address of a recipient that is not
an own address. -/
theorem stripOwnAddresses_own {fromNormalized : String} {raws out : List String} {email : String}
    (hemail : email ∈ stripOwnAddresses lower addresses fromNormalized raws out) :
    email ∈ out ∨ ∃ raw ∈ raws, email = (normalizeRecipient lower raw).address ∧
      stripIsOwn lower addresses raw = false := by
  induction raws generalizing out with
  | nil => exact .inl hemail
  | cons raw raws ih =>
      rw [stripOwnAddresses] at hemail
      split at hemail
      · obtain hout | ⟨other, hother, hrest⟩ := ih hemail
        · exact .inl hout
        · exact .inr ⟨other, List.mem_cons_of_mem _ hother, hrest⟩
      · rename_i hkept
        obtain hout | ⟨other, hother, hrest⟩ := ih hemail
        · obtain hout | hnew := List.mem_append.mp hout
          · exact .inl hout
          · refine .inr ⟨raw, List.mem_cons_self, List.mem_singleton.mp hnew, ?_⟩
            simp only [Bool.or_eq_true, not_or, Bool.not_eq_true] at hkept
            exact hkept.1.2
        · exact .inr ⟨other, List.mem_cons_of_mem _ hother, hrest⟩

/-- The tests of the two filters and the lookup agree, and nothing that the filters keep is routed to
one of the rows. -/
theorem own_addresses_stay_out (hlower : KeepsSeparators lower)
    (hstored : ∀ a ∈ addresses, StoredAddress lower debug a) :
    (∀ candidate, isOwnAddress lower addresses candidate = stripIsOwn lower addresses candidate ∧
      isOwnAddress lower addresses candidate =
        (resolve lower (fun key => addresses.any (·.address == key)) [candidate]).isSome ∧
      (isOwnAddress lower addresses candidate = true ↔ RoutesBack lower addresses candidate)) ∧
    (∀ inst ticket requesterEmails ccEmails body threading nonce mail,
      buildOutbound lower debug inst addresses ticket requesterEmails ccEmails body threading nonce =
        .ok mail → ∀ email ∈ mail.recipients ++ mail.ccs, ¬ RoutesBack lower addresses email) ∧
    (∀ fromNormalized tos ccs,
      ∀ email ∈ stripOwnAddresses lower addresses fromNormalized (tos ++ ccs) [],
        ¬ RoutesBack lower addresses email) := by
  refine ⟨fun candidate => ⟨rfl, ?_, isOwnAddress_iff hlower hstored candidate⟩, ?_, ?_⟩
  · rw [Bool.eq_iff_iff, resolve_isSome_iff]
    exact isOwnAddress_iff hlower hstored candidate
  · intro inst ticket requesterEmails ccEmails body threading nonce mail hmail email hemail hback
    have hnot := buildOutbound_own hmail hemail
    rw [(isOwnAddress_iff hlower hstored email).mpr hback] at hnot
    cases hnot
  · intro fromNormalized tos ccs email hemail hback
    obtain hout | ⟨raw, -, rfl, hown⟩ := stripOwnAddresses_own hemail
    · cases hout
    · unfold RoutesBack at hback
      rw [lookupKeys_normalized hlower] at hback
      have htrue : stripIsOwn lower addresses raw = true :=
        (isOwnAddress_iff hlower hstored raw).mpr hback
      rw [hown] at htrue
      cases htrue

end

/-! ### The ASCII case -/

/-- Only a capital letter is changed, and it becomes a letter. -/
theorem eq_of_toLower {c d : Char} (h : c.toLower = d) (hd : d.toNat < 97) : c = d := by
  by_cases hc : c.val ≥ 'A'.val ∧ c.val ≤ 'Z'.val
  · have hval : c.toLower.val = c.val + ('a'.val - 'A'.val) := by
      unfold Char.toLower
      rw [dif_pos hc]
    have hnat : d.toNat = (c.val + ('a'.val - 'A'.val)).toNat := by
      rw [← hval, ← h]
      rfl
    simp only [UInt32.le_iff_toNat_le, ge_iff_le, UInt32.toNat_add] at hc hnat
    have ha : ('A'.val).toNat = 65 := by decide
    have hz : ('Z'.val).toNat = 90 := by decide
    have hoff : ('a'.val - 'A'.val).toNat = 32 := by decide
    omega
  · have hsame : c.toLower = c := dif_neg hc
    rw [← h, hsame]

theorem mem_of_asciiLower {c : Char} (hc : c.toNat < 97) {s : String}
    (h : c ∈ (asciiLower s).toList) : c ∈ s.toList := by
  rw [asciiLower, String.toList_ofList] at h
  obtain ⟨d, hd, hlow⟩ := List.mem_map.mp h
  rwa [← eq_of_toLower hlow hc]

theorem asciiLower_keepsSeparators : KeepsSeparators asciiLower where
  again s := asciiLower_laws.part s (asciiLower s) [] [] (by simp)
  at_mem _ h := mem_of_asciiLower (by decide) h
  plus_mem _ h := mem_of_asciiLower (by decide) h

theorem own_addresses_sample :
    (isOwnAddress asciiLower deskAddresses "Any+tag@EXAMPLE.org" = true ↔
      RoutesBack asciiLower deskAddresses "Any+tag@EXAMPLE.org") ∧
    ∀ email ∈ stripOwnAddresses asciiLower deskAddresses "ann@x.org"
      (["help@example.org", "Bob+1@Y.org"] ++ ["ANN@x.org", "bob"]) [],
      ¬ RoutesBack asciiLower deskAddresses email := by
  have hstored : ∀ a ∈ deskAddresses, StoredAddress asciiLower id a := by
    rw [deskAddresses, List.forall_mem_cons, List.forall_mem_singleton]
    exact ⟨⟨"*@Example.org", by decide +kernel⟩, ⟨" Help@example.org", by decide +kernel⟩⟩
  obtain ⟨hagree, -, hstrip⟩ := own_addresses_stay_out asciiLower_keepsSeparators hstored
  exact ⟨(hagree "Any+tag@EXAMPLE.org").2.2,
    hstrip "ann@x.org" ["help@example.org", "Bob+1@Y.org"] ["ANN@x.org", "bob"]⟩

end Microticket

import Microticket.Service

/-! # Undisturbed histories

A program that reads a key and later acts on it without a lock is only right if nobody wrote the
key in between.  `Undisturbed reads acts writes evs` says that this is so everywhere in the history
`evs`: between a read of a key by some program and an action of that program on the key, no other
program writes it.  Programs that run one after the other are undisturbed
(`Undisturbed.of_serial`). -/

namespace Interleaving

variable {Op : Type} {Res : Op → Type} {κ : Type}

/-- Between a read and a later action of one program on a key no other program writes it. -/
def Undisturbed (reads acts writes : κ → Op → Bool) (evs : List (Event Op Res)) : Prop :=
  ∀ r w a key, [r, w, a].Sublist evs → reads key r.op → writes key w.op → acts key a.op →
    r.caller = a.caller → w.caller = a.caller

section
variable {reads acts writes : κ → Op → Bool} {evs pre post : List (Event Op Res)}
variable {r w a : Event Op Res} {key : κ}

theorem Undisturbed.left {more : List (Event Op Res)}
    (h : Undisturbed reads acts writes (evs ++ more)) : Undisturbed reads acts writes evs :=
  fun r w a key hsub => h r w a key (hsub.trans (List.sublist_append_left _ _))

/-- Whatever writes the key since the read of the acting program is this program. -/
theorem Undisturbed.own (h : Undisturbed reads acts writes (pre ++ r :: post ++ [a]))
    (hr : reads key r.op) (ha : acts key a.op) (hi : r.caller = a.caller) (hw : w ∈ post)
    (hwrite : writes key w.op) : w.caller = a.caller := by
  refine h r w a key ?_ hr hwrite ha hi
  have hpost : [w].Sublist post := List.singleton_sublist.mpr hw
  have htail : [w, a].Sublist (post ++ [a]) := hpost.append (List.Sublist.refl [a])
  rw [List.append_assoc]
  exact (htail.cons_cons r).trans (List.sublist_append_right _ _)

/-- A pair of requests of a longer history, in their order. -/
theorem pair_sublist_concat {x y z : Event Op Res} :
    [x, y].Sublist (evs ++ [z]) ↔ [x, y].Sublist evs ∨ x ∈ evs ∧ y = z := by
  constructor
  · intro h
    rcases List.sublist_append_iff.mp h with ⟨l₁, l₂, heq, h₁, h₂⟩
    rcases List.sublist_cons_iff.mp h₂ with h₂ | ⟨l, rfl, hl⟩
    · obtain rfl := List.eq_nil_of_sublist_nil h₂
      rw [List.append_nil] at heq
      exact .inl (heq ▸ h₁)
    · obtain rfl := List.eq_nil_of_sublist_nil hl
      have hsplit : [x] ++ [y] = l₁ ++ [z] := heq
      obtain ⟨rfl, hy⟩ := List.append_inj' hsplit rfl
      exact .inr ⟨List.singleton_sublist.mp h₁, (List.cons.inj hy).1⟩
  · rintro (h | ⟨hx, rfl⟩)
    · exact h.trans (List.sublist_append_left _ _)
    · exact (List.singleton_sublist.mpr hx).append (List.Sublist.refl [y])

/-- Programs that run one after the other do not disturb each other. -/
theorem Undisturbed.of_serial (h : (evs.map Event.caller).Pairwise (· ≤ ·)) :
    Undisturbed reads acts writes evs := by
  intro r w a key hsub _ _ _ hcaller
  have hcallers := h.sublist (hsub.map Event.caller)
  simp only [List.map_cons, List.map_nil, List.pairwise_cons, List.mem_cons] at hcallers
  have hrw : r.caller ≤ w.caller := hcallers.1 _ (.inl rfl)
  have hwa : w.caller ≤ a.caller := hcallers.2.1 _ (.inl rfl)
  omega

end

end Interleaving

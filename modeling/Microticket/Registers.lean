import Mathlib.Logic.Function.Basic

/-! # What is known of keys for good

A `Register κ β` says of the keys that were ever given out what never changes of their rows.  It only
grows (`Register.Le`): a value is recorded for a new key (`Register.record`) and stays. -/

namespace Tables

/-- A value for each key that was ever given out. -/
abbrev Register (κ β : Type) : Type := κ → Option β

namespace Register

variable {κ β : Type} {r r₁ r₂ r₃ : Register κ β} {k k' : κ} {b b' : β}

/-- What `r₁` says, `r₂` says too. -/
def Le (r₁ r₂ : Register κ β) : Prop := ∀ ⦃k b⦄, r₁ k = some b → r₂ k = some b

theorem Le.refl (r : Register κ β) : r.Le r := fun _ _ h => h

theorem Le.trans (h₁ : r₁.Le r₂) (h₂ : r₂.Le r₃) : r₁.Le r₃ := fun _ _ h => h₂ (h₁ h)

theorem Le.isSome (h : r₁.Le r₂) (hk : (r₁ k).isSome) : (r₂ k).isSome := by
  obtain ⟨b, hb⟩ := Option.isSome_iff_exists.mp hk
  exact Option.isSome_iff_exists.mpr ⟨b, h hb⟩

variable [DecidableEq κ]

/-- Record a value. -/
def record (r : Register κ β) (k : κ) (b : β) : Register κ β := Function.update r k (some b)

@[simp] theorem record_self : r.record k b k = some b := Function.update_self ..

/-- What is recorded of a key: the new value, or what was recorded before. -/
theorem record_cases (h : r.record k b k' = some b') : k' = k ∧ b' = b ∨ r k' = some b' := by
  by_cases hk : k' = k
  · subst hk
    rw [record_self] at h
    exact .inl ⟨rfl, (Option.some.inj h).symm⟩
  · rw [record, Function.update_of_ne hk] at h
    exact .inr h

/-- A value for a new key. -/
theorem le_record (hnew : r k = none) (b : β) : r.Le (r.record k b) := by
  intro k' b' h
  have hk : k' ≠ k := by
    rintro rfl
    rw [hnew] at h
    cases h
  rw [record, Function.update_of_ne hk, h]

theorem isSome_record (h : (r.record k b k').isSome) : k' = k ∨ (r k').isSome := by
  obtain ⟨b', hb⟩ := Option.isSome_iff_exists.mp h
  rcases record_cases hb with ⟨rfl, -⟩ | hb
  · exact .inl rfl
  · exact .inr (Option.isSome_iff_exists.mpr ⟨b', hb⟩)

end Register

end Tables

import Microticket.Store

/-! # Rows that a write changes

`Changed t t' k a` says that the table `t'` has not the same row under `k` as `t`, and that `a` is this
row, before or after. -/

namespace Tables

namespace Table

variable {κ α : Type} [DecidableEq κ] {t t' : Table κ α} {k k₀ : κ} {a a₀ : α}

/-- The row under `k` is changed, and `a` is the row before or after. -/
structure Changed (t t' : Table κ α) (k : κ) (a : α) : Prop where
  ne : t'.lookup k ≠ t.lookup k
  row : t.lookup k = some a ∨ t'.lookup k = some a

theorem Changed.not_same (h : Changed t t' k a) (heq : t' = t) : False := by
  subst heq
  exact h.ne rfl

/-- What holds of every row before and after holds of a row that is changed. -/
theorem Changed.each {P : κ → α → Prop} (h : Changed t t' k a) (ht : Each t P) (ht' : Each t' P) :
    P k a := h.row.elim (fun hrow => ht hrow) fun hrow => ht' hrow

theorem Changed.insert (h : Changed t (t.insert k₀ a₀) k a) : k = k₀ := by
  by_contra hk
  exact h.ne (AList.lookup_insert_ne hk)

theorem Changed.erase (h : Changed t (t.erase k₀) k a) : k = k₀ := by
  by_contra hk
  exact h.ne (AList.lookup_erase_ne hk)

theorem lookup_modifyAll_of_not_mem {f : α → α} {ks : List κ} (hk : k ∉ ks) :
    (t.modifyAll f ks).lookup k = t.lookup k := by
  unfold Table.modifyAll
  induction ks generalizing t with
  | nil => rfl
  | cons k₁ ks ih =>
      rw [List.mem_cons, not_or] at hk
      refine (ih hk.2).trans ?_
      rw [lookup_modify, if_neg hk.1]

theorem Changed.modifyAll {f : α → α} {ks : List κ} (h : Changed t (t.modifyAll f ks) k a) :
    k ∈ ks := by
  by_contra hk
  exact h.ne (lookup_modifyAll_of_not_mem hk)

end Table

end Tables

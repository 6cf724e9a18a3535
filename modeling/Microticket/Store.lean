import Mathlib.Data.List.AList

/-! # Tables and replicas

A `Table κ α` holds rows `α` under keys `κ`; it is Mathlib's `AList`, and the lemmas here say what
a key's row is after a write, as one equation for all keys.  `modify` changes the row of one key
and `modifyAll` the rows of a list of keys, if they exist; `KeyedBy` says that every row carries its
own key, `Each` what holds of every row, and `UniqueBy` that no two rows share a value of a column.

A `Replica D` is the committed database together with all its earlier versions, newest first.
`seen 0` is the latest committed version, as a strongly consistent read returns it; an eventually
consistent read may return `seen lag` for any `lag`. -/

namespace Tables

/-- Rows `α` under keys `κ`. -/
abbrev Table (κ α : Type) := AList fun _ : κ => α

namespace Table

variable {κ α : Type} [DecidableEq κ] (t : Table κ α) (k k' : κ) (a : α) (f : α → α)

theorem lookup_insert_if :
    (t.insert k a).lookup k' = if k' = k then some a else t.lookup k' := by
  split
  · rename_i h
    rw [h, AList.lookup_insert]
  · rename_i h
    exact AList.lookup_insert_ne h

theorem lookup_erase_if : (t.erase k).lookup k' = if k' = k then none else t.lookup k' := by
  split
  · rename_i h
    rw [h, AList.lookup_erase]
  · rename_i h
    exact AList.lookup_erase_ne h

theorem lookup_insert_cases {b : α} (h : (t.insert k a).lookup k' = some b) :
    k' = k ∧ b = a ∨ t.lookup k' = some b := by
  rw [lookup_insert_if] at h
  split at h
  · rename_i hk
    exact .inl ⟨hk, (Option.some.inj h).symm⟩
  · exact .inr h

@[simp] theorem lookup_empty : (∅ : Table κ α).lookup k = none := rfl

/-- Replacing a row adds no key. -/
theorem lookup_replace_none {a a' : α} (h : t.lookup k = some a) (hk : t.lookup k' = none) :
    (t.insert k a').lookup k' = none := by
  rw [lookup_insert_if, if_neg, hk]
  rintro rfl
  simp [h] at hk

theorem lookup_erase_none (h : t.lookup k' = none) : (t.erase k).lookup k' = none := by
  rw [lookup_erase_if, h, ite_self]

theorem lookup_of_erase (h : (t.erase k).lookup k' = some a) : t.lookup k' = some a := by
  rw [lookup_erase_if] at h
  split at h
  · cases h
  · exact h

/-- Change the row of `k`, if there is one. -/
def modify : Table κ α :=
  match t.lookup k with
  | some a => t.insert k (f a)
  | none => t

theorem lookup_modify :
    (t.modify k f).lookup k' = if k' = k then (t.lookup k).map f else t.lookup k' := by
  unfold modify
  split
  · rename_i a h
    rw [lookup_insert_if, h, Option.map_some]
  · rename_i h
    rw [h, Option.map_none]
    split
    · rename_i hk
      rw [hk, h]
    · rfl

/-- Change the rows of the keys `ks`. -/
def modifyAll (ks : List κ) : Table κ α := ks.foldl (fun t k => t.modify k f) t

theorem lookup_modifyAll {ks : List κ} (h : ks.Nodup) :
    (t.modifyAll f ks).lookup k = if k ∈ ks then (t.lookup k).map f else t.lookup k := by
  unfold modifyAll
  induction ks generalizing t with
  | nil => simp
  | cons a ks ih =>
      obtain ⟨ha, h⟩ := List.nodup_cons.mp h
      rw [List.foldl_cons, ih (t.modify a f) h, lookup_modify]
      by_cases hk : k = a
      · subst hk
        simp [ha]
      · simp [hk]

/-! ### Counting rows -/

/-- How many rows satisfy `p`. -/
def count (p : α → Bool) : ℕ := t.entries.countP fun row => p row.snd

theorem count_erase_le {p : α → Bool} : count (t.erase k) p ≤ t.count p :=
  (List.kerase_sublist k t.entries).countP_le

/-- A write adds at most its own row. -/
theorem count_insert_le {p : α → Bool} : count (t.insert k a) p ≤ t.count p + if p a then 1 else 0 := by
  have hrest := t.count_erase_le k (p := p)
  have hsplit : count (t.insert k a) p = count (t.erase k) p + if p a then 1 else 0 := by
    unfold count
    rw [AList.entries_insert, List.countP_cons]
    rfl
  omega

/-- Replacing a row by one that satisfies `p` exactly if the old one does. -/
theorem count_replace {p : α → Bool} {a a' : α} (h : t.lookup k = some a) (hp : p a' = p a) :
    count (t.insert k a') p = t.count p := by
  have hkey : k ∈ t.entries.keys := AList.mem_keys.mpr (AList.lookup_isSome.mp (by rw [h]; rfl))
  obtain ⟨b, l₁, l₂, hnew, hentries, herase⟩ := List.exists_of_kerase hkey
  have hb : b = a := by
    have hmem : (⟨k, b⟩ : Sigma fun _ : κ => α) ∈ t.entries := by
      rw [hentries]
      simp
    rw [AList.mem_lookup_iff.mpr hmem] at h
    exact Option.some.inj h
  subst hb
  unfold count
  rw [AList.entries_insert, herase, hentries]
  simp only [List.countP_cons, List.countP_append]
  rw [hp]
  omega

/-! ### Keys -/

/-- Every row is stored under its own key. -/
def KeyedBy (t : Table κ α) (key : α → κ) : Prop :=
  ∀ ⦃k a⦄, t.lookup k = some a → key a = k

variable {t k} {key : α → κ}

theorem KeyedBy.insert (h : KeyedBy t key) {a : α} (ha : key a = k) :
    KeyedBy (t.insert k a) key := by
  intro k' a' h'
  rw [Table.lookup_insert_if] at h'
  split at h'
  · rename_i hk
    cases h'
    exact ha.trans hk.symm
  · exact h h'

/-- Replace a row by one with the same key. -/
theorem KeyedBy.replace (h : KeyedBy t key) {a a' : α} (ha : t.lookup k = some a)
    (ha' : key a' = key a) : KeyedBy (t.insert k a') key := h.insert (ha'.trans (h ha))

theorem KeyedBy.erase (h : KeyedBy t key) (k : κ) : KeyedBy (t.erase k) key := by
  intro k' a' h'
  rw [Table.lookup_erase_if] at h'
  split at h'
  · cases h'
  · exact h h'

theorem KeyedBy.modifyAll (h : KeyedBy t key) {f : α → α} (hf : ∀ a, key (f a) = key a)
    {ks : List κ} (hn : ks.Nodup) : KeyedBy (t.modifyAll f ks) key := by
  intro k' a' h'
  rw [Table.lookup_modifyAll _ _ _ hn] at h'
  split at h'
  · obtain ⟨a, ha, rfl⟩ := Option.map_eq_some_iff.mp h'
    rw [hf, h ha]
  · exact h h'

/-! ### What holds of every row -/

/-- Every row satisfies `P`, with its key. -/
def Each (t : Table κ α) (P : κ → α → Prop) : Prop := ∀ ⦃k a⦄, t.lookup k = some a → P k a

section each
variable {P P' : κ → α → Prop}

theorem Each.empty : Each (∅ : Table κ α) P := by
  intro k a h
  cases h

theorem Each.mono (h : Each t P) (hP : ∀ k a, P k a → P' k a) : Each t P' :=
  fun _ _ ha => hP _ _ (h ha)

theorem Each.insert (h : Each t P) {a : α} (ha : P k a) : Each (t.insert k a) P := by
  intro k' a' h'
  rcases lookup_insert_cases _ _ _ _ h' with ⟨rfl, rfl⟩ | h'
  · exact ha
  · exact h h'

/-- Change a row so that it still satisfies `P`. -/
theorem Each.replace (h : Each t P) {a a' : α} (ha : t.lookup k = some a) (hP : P k a → P k a') :
    Each (t.insert k a') P := h.insert (hP (h ha))

theorem Each.erase (h : Each t P) (k : κ) : Each (t.erase k) P :=
  fun _ _ h' => h (lookup_of_erase _ _ _ _ h')

theorem Each.modify (h : Each t P) {f : α → α} (hf : ∀ a, P k a → P k (f a)) :
    Each (t.modify k f) P := by
  unfold Table.modify
  split
  · rename_i a ha
    exact h.replace ha (hf a)
  · exact h

theorem Each.modifyAll (h : Each t P) {f : α → α} {ks : List κ}
    (hf : ∀ k ∈ ks, ∀ a, P k a → P k (f a)) : Each (t.modifyAll f ks) P := by
  unfold Table.modifyAll
  induction ks generalizing t with
  | nil => exact h
  | cons k ks ih =>
      obtain ⟨hk, hks⟩ := List.forall_mem_cons.mp hf
      exact ih (h.modify hk) hks

end each

/-! ### Unique columns -/

/-- No two rows have the same value of the column. -/
def UniqueBy {β : Type} (t : Table κ α) (column : α → β) : Prop :=
  ∀ ⦃k k' a a'⦄, t.lookup k = some a → t.lookup k' = some a' → column a = column a' → k = k'

section unique
variable {β : Type} {column : α → β}

/-- Write a row whose value no row under another key has. -/
theorem UniqueBy.insert (h : UniqueBy t column) {a : α}
    (ha : ∀ k' a', t.lookup k' = some a' → column a' = column a → k' = k) :
    UniqueBy (t.insert k a) column := by
  intro k₁ k₂ a₁ a₂ h₁ h₂ heq
  rw [lookup_insert_if] at h₁ h₂
  split at h₁
  · rename_i hk₁
    cases h₁
    split at h₂
    · rename_i hk₂
      exact hk₁.trans hk₂.symm
    · exact hk₁.trans (ha k₂ a₂ h₂ heq.symm).symm
  · split at h₂
    · rename_i hk₂
      cases h₂
      exact (ha k₁ a₁ h₁ heq).trans hk₂.symm
    · exact h h₁ h₂ heq

theorem UniqueBy.erase (h : UniqueBy t column) (k : κ) : UniqueBy (t.erase k) column :=
  fun _ _ _ _ h₁ h₂ heq => h (lookup_of_erase _ _ _ _ h₁) (lookup_of_erase _ _ _ _ h₂) heq

/-- At most one key has a given value in the column. -/
theorem UniqueBy.keys_length_le_one [DecidableEq β] (h : UniqueBy t column) (b : β) :
    ((t.entries.filter fun entry => column entry.2 == b).map Sigma.fst).length ≤ 1 := by
  have hnodup : ((t.entries.filter fun entry => column entry.2 == b).map Sigma.fst).Nodup :=
    List.Nodup.sublist (List.filter_sublist.map Sigma.fst) t.nodupKeys
  have hall : ∀ entry ∈ t.entries.filter fun entry => column entry.2 == b,
      t.lookup entry.1 = some entry.2 ∧ column entry.2 = b := by
    intro entry hentry
    obtain ⟨hmem, hcolumn⟩ := List.mem_filter.mp hentry
    exact ⟨AList.mem_lookup_iff.mpr hmem, eq_of_beq hcolumn⟩
  cases hfound : t.entries.filter fun entry => column entry.2 == b with
  | nil => exact Nat.zero_le 1
  | cons first rest =>
      cases rest with
      | nil => exact le_refl 1
      | cons second rest =>
          rw [hfound] at hnodup hall
          obtain ⟨h₁, hb₁⟩ := hall first List.mem_cons_self
          obtain ⟨h₂, hb₂⟩ := hall second (List.mem_cons_of_mem _ List.mem_cons_self)
          have hsame : first.1 = second.1 := h h₁ h₂ (hb₁.trans hb₂.symm)
          rw [List.map_cons, List.map_cons, hsame] at hnodup
          exact absurd List.mem_cons_self (List.nodup_cons.mp hnodup).1

end unique

end Table

/-- The committed database and its earlier versions, newest first. -/
structure Replica (D : Type) where
  now : D
  past : List D

namespace Replica

variable {D : Type} (r : Replica D)

/-- Commit a new version. -/
def write (d : D) : Replica D := ⟨d, r.now :: r.past⟩

/-- The version `lag` commits ago. -/
def seen (lag : ℕ) : D := (r.now :: r.past).getD lag r.now

/-- `d` is a version that was committed at some time. -/
def Committed (d : D) : Prop := d ∈ r.now :: r.past

@[simp] theorem write_now (d : D) : (r.write d).now = d := rfl

@[simp] theorem seen_zero : r.seen 0 = r.now := rfl

theorem committed_now (r : Replica D) : r.Committed r.now := List.mem_cons_self

theorem committed_seen (r : Replica D) (lag : ℕ) : r.Committed (r.seen lag) := by
  unfold Replica.seen
  rw [List.getD_eq_getElem?_getD]
  rcases hl : (r.now :: r.past)[lag]? with _ | d
  · exact r.committed_now
  · exact List.mem_of_getElem? hl

variable {r} in
theorem committed_write (d : D) {d' : D} (h : r.Committed d') : (r.write d).Committed d' :=
  List.mem_cons_of_mem _ h

end Replica

end Tables

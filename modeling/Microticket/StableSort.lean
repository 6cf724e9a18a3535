import Mathlib.Data.List.Sort
import Mathlib.Data.List.TakeWhile

/-! # Stable sorting by a key

`List.insertionSort` keeps the order of elements with the same key.  So what is made of a sorted list
does not depend on the order in which the list was given exactly if elements with the same key are
made into the same (`order_free_iff`). -/

namespace Sorting

variable {α β κ : Type*} [LinearOrder κ] {r : α → α → Prop} [DecidableRel r] {key : α → κ} {f : α → β}

/-- Two elements with the same key come to stand side by side, in the order given. -/
theorem insertionSort_tie (hr : ∀ a b, r a b ↔ key a ≤ key b) {a b : α} (hkey : key a = key b)
    (l : List α) : ∃ front back, (a :: b :: l).insertionSort r = front ++ a :: b :: back ∧
      (b :: a :: l).insertionSort r = front ++ b :: a :: back := by
  have hsame : ∀ e, r a e ↔ r b e := by
    intro e
    rw [hr, hr, hkey]
  have hpair : ∀ {c d : α}, key c = key d → (∀ e, r c e ↔ r a e) → (∀ e, r d e ↔ r a e) →
      (c :: d :: l).insertionSort r = (l.insertionSort r).takeWhile (fun e => ¬ r a e) ++
        c :: d :: (l.insertionSort r).dropWhile (fun e => ¬ r a e) := by
    intro c d hcd hc hd
    have hcd' : r c d := (hr c d).mpr hcd.le
    rw [List.insertionSort_cons, List.insertionSort_cons_eq_take_drop,
      List.orderedInsert_eq_take_drop]
    simp only [hc, hd]
    have hfront : ∀ e ∈ (l.insertionSort r).takeWhile (fun e => ¬ r a e), ¬ r a e :=
      fun e he => of_decide_eq_true (List.mem_takeWhile_imp (p := fun e => ¬ r a e) he)
    have hd' : r a d := (hc d).mp hcd'
    rw [List.takeWhile_append_of_pos (by simpa using hfront),
      List.dropWhile_append_of_pos (by simpa using hfront),
      List.takeWhile_cons_of_neg (by simp [hd']), List.dropWhile_cons_of_neg (by simp [hd']),
      List.append_nil]
  exact ⟨_, _, hpair hkey (fun _ => Iff.rfl) fun e => (hsame e).symm,
    hpair hkey.symm (fun e => (hsame e).symm) fun _ => Iff.rfl⟩

theorem pairwise_insertionSort_key (hr : ∀ a b, r a b ↔ key a ≤ key b) (l : List α) :
    (l.insertionSort r).Pairwise r := by
  have htotal : Std.Total r := ⟨fun a b => by
    rw [hr, hr]
    exact le_total _ _⟩
  have htrans : IsTrans α r := ⟨fun a b c hab hbc => by
    rw [hr] at hab hbc ⊢
    exact hab.trans hbc⟩
  exact List.pairwise_insertionSort r l

/-- If elements with the same key are made into the same, the order given does not show. -/
theorem map_insertionSort_perm (hr : ∀ a b, r a b ↔ key a ≤ key b) {l l' : List α} (h : l'.Perm l)
    (hties : ∀ a ∈ l, ∀ b ∈ l, key a = key b → f a = f b) :
    (l'.insertionSort r).map f = (l.insertionSort r).map f := by
  -- with the keys beside them the results are sorted, and equal keys mean equal results
  have hpairs : (l'.insertionSort r).map (fun a => (key a, f a)) =
      (l.insertionSort r).map (fun a => (key a, f a)) := by
    have hsorted : ∀ l : List α, ((l.insertionSort r).map (fun a => (key a, f a))).Pairwise
        (fun p q => p.1 ≤ q.1) := by
      intro l
      rw [List.pairwise_map]
      exact (pairwise_insertionSort_key hr l).imp fun hab => (hr _ _).mp hab
    have hperm : (l'.insertionSort r).Perm (l.insertionSort r) :=
      (List.perm_insertionSort r l').trans (h.trans (List.perm_insertionSort r l).symm)
    refine (hperm.map _).eq_of_pairwise (fun p q hp hq hpq hqp => ?_) (hsorted l') (hsorted l)
    obtain ⟨a, ha, rfl⟩ := List.mem_map.mp hp
    obtain ⟨b, hb, rfl⟩ := List.mem_map.mp hq
    have hkey : key a = key b := le_antisymm hpq hqp
    rw [List.mem_insertionSort] at ha hb
    simp only [hkey, hties a (h.subset ha) b hb hkey]
  have hsecond := congrArg (List.map Prod.snd) hpairs
  simpa [List.map_map, Function.comp_def] using hsecond

/-- The order given does not show exactly if elements with the same key are made into the same. -/
theorem order_free_iff (hr : ∀ a b, r a b ↔ key a ≤ key b) (l : List α) :
    (∀ l' : List α, l'.Perm l → (l'.insertionSort r).map f = (l.insertionSort r).map f) ↔
      ∀ a ∈ l, ∀ b ∈ l, key a = key b → f a = f b := by
  constructor
  · intro hfree a ha b hb hkey
    by_contra hne
    have hab : a ≠ b := fun hab => hne (congrArg f hab)
    obtain ⟨rest, hrest⟩ : ∃ rest, l.Perm (a :: b :: rest) := by
      obtain ⟨front, back, rfl⟩ := List.append_of_mem ha
      have hb' : b ∈ front ++ back := by
        simpa [hab.symm] using hb
      obtain ⟨front', back', hsplit⟩ := List.append_of_mem hb'
      refine ⟨front' ++ back', List.perm_middle.trans (List.Perm.cons a ?_)⟩
      rw [hsplit]
      exact List.perm_middle
    obtain ⟨front, back, hfirst, hsecond⟩ := insertionSort_tie hr hkey rest
    have hswap := (hfree _ hrest.symm).trans
      (hfree _ ((List.Perm.swap a b rest).trans hrest.symm)).symm
    rw [hfirst, hsecond, List.map_append, List.map_append, List.append_cancel_left_eq, List.map_cons,
      List.map_cons, List.map_cons, List.cons_eq_cons] at hswap
    exact hne hswap.1
  · intro hties l' hperm
    exact map_insertionSort_perm hr hperm hties

end Sorting

import Mathlib.Data.List.Nodup
import Mathlib.Logic.Function.Basic

/-! # Items bound to versioned containers

A ledger holds items, each of a group and with an owner (a container) or none, and containers, each
of a group, with a list of members, a version, and a flag `closed`.  `Ledger.Step cap` are the
changes a store may make: record, edit and discard free items; open a container with free items of
its group, bind more, release some, dissolve it; edit an item of an open container; close a
container.  A step on an open container raises its version, and there is no step on a closed one.

* `Consistent cap`: an item's owner and the containers' member lists agree, members have the
  container's group and are at most `cap` and distinct.  Every step keeps it (`Step.consistent`).
* `Follows b L L'`: container `b` has not been opened again, its version has not gone back, at an
  equal version nothing about it or its members has changed, and if it was closed it is still there
  unchanged.  Every step except opening `b` keeps it (`Step.follows`), and it is a preorder
  on consistent ledgers (`Follows.trans`): this is what makes a compare-and-swap on the version
  protect everything that was read at that version. -/

/-- An item of group `group`, owned by a container or free. -/
structure Ledger.Item (ι γ α : Type) where
  group : γ
  owner : Option ι
  data : α

/-- A container of group `group`. -/
structure Ledger.Box (κ γ β : Type) where
  group : γ
  members : List κ
  version : ℕ
  closed : Bool
  data : β

/-- Items under keys `κ` and containers under keys `ι`. -/
structure Ledger (κ ι γ α β : Type) where
  items : κ → Option (Ledger.Item ι γ α)
  boxes : ι → Option (Ledger.Box κ γ β)

namespace Ledger

variable {κ ι γ α β : Type}

/-- Every item of `ks` exists, is free and is of group `g`. -/
def Free (L : Ledger κ ι γ α β) (g : γ) (ks : List κ) : Prop :=
  ∀ k ∈ ks, ∃ it, L.items k = some it ∧ it.owner = none ∧ it.group = g

/-- Every item of `ks` is owned by `b`. -/
def Owned (L : Ledger κ ι γ α β) (b : ι) (ks : List κ) : Prop :=
  ∀ k ∈ ks, ∃ it, L.items k = some it ∧ it.owner = some b

/-! ### Consistency -/

/-- Owners and member lists agree. -/
structure Consistent (cap : ℕ) (L : Ledger κ ι γ α β) : Prop where
  bound : ∀ k b, (∃ it, L.items k = some it ∧ it.owner = some b) ↔
    ∃ box, L.boxes b = some box ∧ k ∈ box.members
  group : ∀ {k b it box}, L.items k = some it → it.owner = some b → L.boxes b = some box →
    it.group = box.group
  nodup : ∀ {b box}, L.boxes b = some box → box.members.Nodup
  length : ∀ {b box}, L.boxes b = some box → box.members.length ≤ cap

theorem Consistent.member {cap : ℕ} {L : Ledger κ ι γ α β} (h : L.Consistent cap) {b : ι}
    {box : Box κ γ β} (hb : L.boxes b = some box) {k : κ} (hk : k ∈ box.members) :
    ∃ it, L.items k = some it ∧ it.owner = some b := (h.bound k b).mpr ⟨box, hb, hk⟩

theorem Consistent.owner {cap : ℕ} {L : Ledger κ ι γ α β} (h : L.Consistent cap) {k : κ}
    {it : Item ι γ α} (hk : L.items k = some it) {b : ι} (ho : it.owner = some b) :
    ∃ box, L.boxes b = some box ∧ k ∈ box.members := (h.bound k b).mp ⟨it, hk, ho⟩

theorem consistent_empty (cap : ℕ) :
    Consistent cap (⟨fun _ => none, fun _ => none⟩ : Ledger κ ι γ α β) where
  bound := by simp
  group := by simp
  nodup := by simp
  length := by simp

/-! ### Steps -/

section steps
variable [DecidableEq κ] [DecidableEq ι]

/-- Give the items `ks` the owner `o`. -/
def setOwner (L : Ledger κ ι γ α β) (ks : List κ) (o : Option ι) : κ → Option (Item ι γ α) :=
  fun k => if k ∈ ks then (L.items k).map fun it => { it with owner := o } else L.items k

/-- The changes a store may make. -/
inductive Step (cap : ℕ) : Ledger κ ι γ α β → Ledger κ ι γ α β → Prop
  | record {L} (k : κ) (it : Item ι γ α) (hk : L.items k = none) (ho : it.owner = none) :
      Step cap L ⟨Function.update L.items k (some it), L.boxes⟩
  | editFree {L} (k : κ) (it it' : Item ι γ α) (hk : L.items k = some it) (ho : it.owner = none)
      (ho' : it'.owner = none) :
      Step cap L ⟨Function.update L.items k (some it'), L.boxes⟩
  | discard {L} (k : κ) (it : Item ι γ α) (hk : L.items k = some it) (ho : it.owner = none) :
      Step cap L ⟨Function.update L.items k none, L.boxes⟩
  | editBound {L} (k : κ) (it it' : Item ι γ α) (b : ι) (box box' : Box κ γ β)
      (hk : L.items k = some it) (ho : it.owner = some b) (hb : L.boxes b = some box)
      (hc : box.closed = false) (ho' : it'.owner = some b) (hg : it'.group = it.group)
      (hg' : box'.group = box.group) (hm : box'.members = box.members)
      (hv : box.version < box'.version) :
      Step cap L ⟨Function.update L.items k (some it'), Function.update L.boxes b (some box')⟩
  | openBox {L} (b : ι) (box : Box κ γ β) (hb : L.boxes b = none) (hf : L.Free box.group box.members)
      (hn : box.members.Nodup) (hl : box.members.length ≤ cap) :
      Step cap L ⟨L.setOwner box.members (some b), Function.update L.boxes b (some box)⟩
  | bind {L} (b : ι) (box box' : Box κ γ β) (ks : List κ) (hb : L.boxes b = some box)
      (hc : box.closed = false) (hf : L.Free box.group ks) (hn : ks.Nodup)
      (hg : box'.group = box.group) (hm : ∀ k, k ∈ box'.members ↔ k ∈ box.members ∨ k ∈ ks)
      (hn' : box'.members.Nodup) (hl : box'.members.length ≤ cap)
      (hv : box.version < box'.version) :
      Step cap L ⟨L.setOwner ks (some b), Function.update L.boxes b (some box')⟩
  | release {L} (b : ι) (box box' : Box κ γ β) (ks : List κ) (hb : L.boxes b = some box)
      (hc : box.closed = false) (ho : L.Owned b ks) (hg : box'.group = box.group)
      (hm : box'.members = box.members.filter fun k => !ks.contains k)
      (hv : box.version < box'.version) :
      Step cap L ⟨L.setOwner ks none, Function.update L.boxes b (some box')⟩
  | dissolve {L} (b : ι) (box : Box κ γ β) (ks : List κ) (hb : L.boxes b = some box)
      (hc : box.closed = false) (ho : L.Owned b ks) (hm : ∀ k ∈ box.members, k ∈ ks) :
      Step cap L ⟨L.setOwner ks none, Function.update L.boxes b none⟩
  | close {L} (b : ι) (box box' : Box κ γ β) (hb : L.boxes b = some box) (hc : box.closed = false)
      (hg : box'.group = box.group) (hm : box'.members = box.members)
      (hv : box.version < box'.version) :
      Step cap L ⟨L.items, Function.update L.boxes b (some box')⟩

theorem Step.consistent {cap : ℕ} {L L' : Ledger κ ι γ α β} (h : Step cap L L')
    (hL : L.Consistent cap) : L'.Consistent cap := by
  cases h with
  | record k it hk ho =>
      refine ⟨fun k' b => ?_, fun hk' => ?_, hL.nodup, hL.length⟩
      · have := hL.bound k' b
        grind
      · have := @hL.group
        grind
  | editFree k it it' hk ho ho' =>
      refine ⟨fun k' b => ?_, fun hk' => ?_, hL.nodup, hL.length⟩
      · have := hL.bound k' b
        grind
      · have := @hL.group
        grind
  | discard k it hk ho =>
      refine ⟨fun k' b => ?_, fun hk' => ?_, hL.nodup, hL.length⟩
      · have := hL.bound k' b
        grind
      · have := @hL.group
        grind
  | editBound k it it' b box box' hk ho hb hc ho' hg hg' hm hv =>
      refine ⟨fun k' b' => ?_, fun hk' => ?_, fun hb' => ?_, fun hb' => ?_⟩
      · have := hL.bound k' b'
        grind
      · have := @hL.group
        grind
      · have := @hL.nodup
        grind
      · have := @hL.length
        grind
  | openBox b box hb hf hn hl =>
      have hnone : ∀ k it, L.items k = some it → it.owner ≠ some b := by
        intro k it hk ho
        obtain ⟨box', hb', -⟩ := hL.owner hk ho
        simp [hb] at hb'
      refine ⟨fun k' b' => ?_, fun hk' => ?_, fun hb' => ?_, fun hb' => ?_⟩
      · have := hL.bound k' b'
        have := hf k'
        grind [setOwner]
      · have := @hL.group
        grind [setOwner, Free]
      · have := @hL.nodup
        grind
      · have := @hL.length
        grind
  | bind b box box' ks hb hc hf hn hg hm hn' hl hv =>
      refine ⟨fun k' b' => ?_, fun hk' => ?_, fun hb' => ?_, fun hb' => ?_⟩
      · have := hL.bound k' b'
        have := hf k'
        grind [setOwner]
      · have := @hL.group
        grind [setOwner, Free]
      · have := @hL.nodup
        grind
      · have := @hL.length
        grind
  | release b box box' ks hb hc ho hg hm hv =>
      refine ⟨fun k' b' => ?_, fun hk' => ?_, fun hb' => ?_, fun hb' => ?_⟩
      · have := hL.bound k' b'
        have := ho k'
        grind [setOwner]
      · have := @hL.group
        grind [setOwner, Owned]
      · have := @hL.nodup
        grind
      · have := @hL.length
        grind
  | dissolve b box ks hb hc ho hm =>
      refine ⟨fun k' b' => ?_, fun hk' => ?_, fun hb' => ?_, fun hb' => ?_⟩
      · have := hL.bound k' b'
        have := ho k'
        grind [setOwner]
      · have := @hL.group
        grind [setOwner, Owned]
      · have := @hL.nodup
        grind
      · have := @hL.length
        grind
  | close b box box' hb hc hg hm hv =>
      refine ⟨fun k' b' => ?_, fun hk' => ?_, fun hb' => ?_, fun hb' => ?_⟩
      · have := hL.bound k' b'
        grind
      · have := @hL.group
        grind
      · have := @hL.nodup
        grind
      · have := @hL.length
        grind

end steps

/-! ### What a version protects -/

/-- The members of `box` are the same items in `L'` as in `L`. -/
def SameMembers (L L' : Ledger κ ι γ α β) (box : Box κ γ β) : Prop :=
  ∀ k ∈ box.members, L'.items k = L.items k

/-- Container `b` was not opened again, its version did not go back, nothing about it changed at an
equal version, and it is still there if it was closed. -/
structure Follows (b : ι) (L L' : Ledger κ ι γ α β) : Prop where
  before : ∀ {box'}, L'.boxes b = some box' → ∃ box, L.boxes b = some box ∧
    box.group = box'.group ∧ box.version ≤ box'.version
  same : ∀ {box box'}, L.boxes b = some box → L'.boxes b = some box' →
    box.version = box'.version → box' = box ∧ SameMembers L L' box
  closed : ∀ {box}, L.boxes b = some box → box.closed = true →
    L'.boxes b = some box ∧ SameMembers L L' box

theorem Follows.refl (b : ι) (L : Ledger κ ι γ α β) : Follows b L L where
  before h := ⟨_, h, rfl, Nat.le_refl _⟩
  same h h' _ := ⟨by simp_all, fun _ _ => rfl⟩
  closed h _ := ⟨h, fun _ _ => rfl⟩

theorem Follows.trans {b : ι} {L₁ L₂ L₃ : Ledger κ ι γ α β} (h₁ : Follows b L₁ L₂)
    (h₂ : Follows b L₂ L₃) : Follows b L₁ L₃ where
  before h := by
    obtain ⟨box₂, hb₂, hg₂, hv₂⟩ := h₂.before h
    obtain ⟨box₁, hb₁, hg₁, hv₁⟩ := h₁.before hb₂
    exact ⟨box₁, hb₁, hg₁.trans hg₂, Nat.le_trans hv₁ hv₂⟩
  same h h' hv := by
    obtain ⟨box₂, hb₂, -, hv₂⟩ := h₂.before h'
    obtain ⟨box₁, hb₁, -, hv₁⟩ := h₁.before hb₂
    obtain rfl := Option.some.inj (h.symm.trans hb₁)
    obtain ⟨rfl, hm₁⟩ := h₁.same h hb₂ (by omega)
    obtain ⟨rfl, hm₂⟩ := h₂.same hb₂ h' (by omega)
    exact ⟨rfl, fun k hk => (hm₂ k hk).trans (hm₁ k hk)⟩
  closed h hc := by
    obtain ⟨hb₂, hm₁⟩ := h₁.closed h hc
    obtain ⟨hb₃, hm₂⟩ := h₂.closed hb₂ hc
    exact ⟨hb₃, fun k hk => (hm₂ k hk).trans (hm₁ k hk)⟩

/-- A step that changes neither container `b` nor an item it owns follows. -/
theorem Follows.of_frame {cap : ℕ} {b : ι} {L L' : Ledger κ ι γ α β} (hL : L.Consistent cap)
    (hb : L'.boxes b = L.boxes b)
    (hm : ∀ k it, L.items k = some it → it.owner = some b → L'.items k = L.items k) :
    Follows b L L' := by
  have hsame : ∀ {box}, L.boxes b = some box → SameMembers L L' box := by
    intro box hbox k hk
    obtain ⟨it, hit, ho⟩ := hL.member hbox hk
    exact hm k it hit ho
  exact ⟨fun h => ⟨_, hb ▸ h, rfl, Nat.le_refl _⟩, fun h h' _ => ⟨by simp_all, hsame h⟩,
    fun h _ => ⟨hb.trans h, hsame h⟩⟩

/-- A step that raises the version of the open container `b` follows. -/
theorem Follows.of_raise {b : ι} {L L' : Ledger κ ι γ α β} {box box' : Box κ γ β}
    (hb : L.boxes b = some box) (hc : box.closed = false) (hb' : L'.boxes b = some box')
    (hg : box'.group = box.group) (hv : box.version < box'.version) : Follows b L L' := by
  refine ⟨fun h => ⟨box, hb, ?_, ?_⟩, fun h h' heq => ?_, fun h hc' => ?_⟩
  · simp_all
  · simp_all [Nat.le_of_lt hv]
  · simp_all
  · simp_all

/-- A step that takes the open container `b` away follows. -/
theorem Follows.of_gone {b : ι} {L L' : Ledger κ ι γ α β} {box : Box κ γ β}
    (hb : L.boxes b = some box) (hc : box.closed = false) (hb' : L'.boxes b = none) :
    Follows b L L' := by
  refine ⟨fun h => ?_, fun h h' _ => ?_, fun h hc' => ?_⟩ <;> simp_all

section
variable [DecidableEq κ] [DecidableEq ι]

theorem Step.follows {cap : ℕ} {L L' : Ledger κ ι γ α β} (h : Step cap L L')
    (hL : L.Consistent cap) {c : ι} (hnew : L.boxes c = none → L'.boxes c = none) :
    Follows c L L' := by
  cases h with
  | record k it hk ho =>
      refine Follows.of_frame hL rfl fun k' it' hk' _ => Function.update_of_ne ?_ _ _
      rintro rfl
      simp [hk] at hk'
  | editFree k it it' hk ho ho' =>
      refine Follows.of_frame hL rfl fun k' it₁ hk' ho₁ => Function.update_of_ne ?_ _ _
      rintro rfl
      simp_all
  | discard k it hk ho =>
      refine Follows.of_frame hL rfl fun k' it₁ hk' ho₁ => Function.update_of_ne ?_ _ _
      rintro rfl
      simp_all
  | editBound k it it' b box box' hk ho hb hc ho' hg hg' hm hv =>
      by_cases hcb : c = b
      · subst hcb
        exact Follows.of_raise hb hc (Function.update_self ..) hg' hv
      · refine Follows.of_frame hL (Function.update_of_ne hcb _ _)
          fun k' it₁ hk' ho₁ => Function.update_of_ne ?_ _ _
        rintro rfl
        simp_all
  | openBox b box hb hf hn hl =>
      have hcb : c ≠ b := by
        rintro rfl
        simpa using hnew hb
      refine Follows.of_frame hL (Function.update_of_ne hcb _ _) fun k it hk ho => ?_
      exact if_neg fun hmem => by grind [hf k hmem]
  | bind b box box' ks hb hc hf hn hg hm hn' hl hv =>
      by_cases hcb : c = b
      · subst hcb
        exact Follows.of_raise hb hc (Function.update_self ..) hg hv
      · refine Follows.of_frame hL (Function.update_of_ne hcb _ _) fun k it hk ho => ?_
        exact if_neg fun hmem => by grind [hf k hmem]
  | release b box box' ks hb hc ho hg hm hv =>
      by_cases hcb : c = b
      · subst hcb
        exact Follows.of_raise hb hc (Function.update_self ..) hg hv
      · refine Follows.of_frame hL (Function.update_of_ne hcb _ _) fun k it hk ho₁ => ?_
        exact if_neg fun hmem => by grind [ho k hmem]
  | dissolve b box ks hb hc ho hm =>
      by_cases hcb : c = b
      · subst hcb
        exact Follows.of_gone hb hc (Function.update_self ..)
      · refine Follows.of_frame hL (Function.update_of_ne hcb _ _) fun k it hk ho₁ => ?_
        exact if_neg fun hmem => by grind [ho k hmem]
  | close b box box' hb hc hg hm hv =>
      by_cases hcb : c = b
      · subst hcb
        exact Follows.of_raise hb hc (Function.update_self ..) hg hv
      · exact Follows.of_frame hL (Function.update_of_ne hcb _ _) fun _ _ _ _ => rfl

end

/-! ### Reading a container and then its items -/

/-- A reader who saw container `b` as `box₀` and later, one at a time, the items `rows`: if the
container still has the version of `box₀`, then all of it is still what is stored. -/
def ReadAt (b : ι) (box₀ : Box κ γ β) (rows : List (κ × Option (Item ι γ α)))
    (L : Ledger κ ι γ α β) : Prop :=
  ∀ box, L.boxes b = some box → box₀.version ≤ box.version ∧
    (box.version = box₀.version →
      box = box₀ ∧ ∀ p ∈ rows, p.1 ∈ box₀.members → L.items p.1 = p.2)

theorem ReadAt.start {b : ι} {box₀ : Box κ γ β} {L : Ledger κ ι γ α β}
    (h : L.boxes b = some box₀) : ReadAt b box₀ [] L := by
  intro box hb
  obtain rfl := Option.some.inj (h.symm.trans hb)
  exact ⟨Nat.le_refl _, fun _ => ⟨rfl, by simp⟩⟩

theorem ReadAt.read {b : ι} {box₀ : Box κ γ β} {rows : List (κ × Option (Item ι γ α))}
    {L : Ledger κ ι γ α β} (h : ReadAt b box₀ rows L) (k : κ) :
    ReadAt b box₀ (rows ++ [(k, L.items k)]) L := by
  intro box hb
  obtain ⟨hle, hsame⟩ := h box hb
  refine ⟨hle, fun hv => ⟨(hsame hv).1, fun p hp hk => ?_⟩⟩
  rcases List.mem_append.mp hp with hp | hp
  · exact (hsame hv).2 p hp hk
  · rw [List.mem_singleton.mp hp]

theorem ReadAt.follows {b : ι} {box₀ : Box κ γ β} {rows : List (κ × Option (Item ι γ α))}
    {L L' : Ledger κ ι γ α β} (h : ReadAt b box₀ rows L) (hf : Follows b L L') :
    ReadAt b box₀ rows L' := by
  intro box' hb'
  obtain ⟨box, hb, -, hle⟩ := hf.before hb'
  obtain ⟨hle₀, hsame⟩ := h box hb
  refine ⟨Nat.le_trans hle₀ hle, fun hv => ?_⟩
  obtain ⟨rfl, hrows⟩ := hsame (by omega)
  obtain ⟨rfl, hmem⟩ := hf.same hb hb' hv.symm
  exact ⟨rfl, fun p hp hk => (hmem _ hk).trans (hrows p hp hk)⟩

end Ledger

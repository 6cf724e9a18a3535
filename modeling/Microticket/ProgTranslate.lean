import Microticket.Contract

/-! # Programs over other requests

`p.translate f` is `p` with every request replaced by the program `f` that answers it by other
requests, and `p.mapError g` is `p` with its errors renamed.  Translation respects sequencing; what
every request of `p` satisfies is carried over to the requests of the translation (`All.translate`),
and so is a contract, along a relation of the two histories that `f` keeps (`Sends.translate`). -/

namespace Interleaving

variable {Op Op' : Type} {Res : Op → Type} {Res' : Op' → Type} {ε ε' α β : Type}

namespace Prog

/-- Replace every request. -/
def translate (f : (op : Op) → Prog Op' Res' ε (Res op)) : Prog Op Res ε α → Prog Op' Res' ε α
  | done a => done a
  | fail e => fail e
  | call op k => f op >>= fun r => (k r).translate f

/-- Rename the errors. -/
def mapError (g : ε → ε') : Prog Op Res ε α → Prog Op Res ε' α
  | done a => done a
  | fail e => fail (g e)
  | call op k => call op fun r => (k r).mapError g

section
variable (f : (op : Op) → Prog Op' Res' ε (Res op)) (g : ε → ε')

@[simp] theorem translate_done (a : α) :
    (done a : Prog Op Res ε α).translate f = done a := rfl

@[simp] theorem translate_fail (e : ε) :
    (fail e : Prog Op Res ε α).translate f = fail e := rfl

theorem translate_call (op : Op) (k : Res op → Prog Op Res ε α) :
    (call op k).translate f = f op >>= fun r => (k r).translate f := rfl

theorem translate_bind (p : Prog Op Res ε α) (q : α → Prog Op Res ε β) :
    (p >>= q).translate f = p.translate f >>= fun a => (q a).translate f := by
  induction p with
  | done a => rfl
  | fail e => rfl
  | call op k ih =>
      rw [call_bind, translate_call, translate_call, bind_assoc]
      exact congrArg _ (funext ih)

end

section
variable {f : (op : Op) → Prog Op' Res' ε (Res op)} {g : ε → ε'} {P : Op → Prop} {P' : Op' → Prop}
variable {p : Prog Op Res ε α}

theorem All.translate (hp : p.All P) (hf : ∀ op, P op → (f op).All P') : (p.translate f).All P' := by
  induction p with
  | done a => trivial
  | fail e => trivial
  | call op k ih => exact (hf op hp.1).bind fun r => ih r (hp.2 r)

theorem All.mapError (hp : p.All P) : (p.mapError g).All P := by
  induction p with
  | done a => trivial
  | fail e => trivial
  | call op k ih => exact ⟨hp.1, fun r => ih r (hp.2 r)⟩

end

end Prog

namespace Sends

variable {i : ℕ} {p : Prog Op Res ε α}

/-- A contract of a program gives one of its translation. -/
theorem translate {f : (op : Op) → Prog Op' Res' ε (Res op)}
    {G : List (Event Op Res) → Op → Prop} {G' : List (Event Op' Res') → Op' → Prop}
    {Q : Except ε α → List (Event Op Res) → Prop}
    {R : List (Event Op Res) → List (Event Op' Res') → Prop}
    (hf : ∀ {op h h'}, R h h' → G h op →
      Sends i G' (fun r h'' => ∃ a, r = .ok a ∧ R (h ++ [⟨i, op, a⟩]) h'') (f op) h')
    {h : List (Event Op Res)} {h' : List (Event Op' Res')} (hp : Sends i G Q p h) (hR : R h h') :
    Sends i G' (fun r h'' => ∃ h₁, R h₁ h'' ∧ Q r h₁) (p.translate f) h' := by
  induction p generalizing h h' with
  | done a => exact ⟨h, hR, hp⟩
  | fail e => exact ⟨h, hR, hp⟩
  | call op k ih =>
      refine (hf hR hp.1).bind (fun r h'' hr => ?_) fun e h'' hr => ?_
      · obtain ⟨a, heq, hR'⟩ := hr
        obtain rfl := Except.ok.inj heq
        exact ih r (hp.2 r) hR'
      · obtain ⟨a, heq, -⟩ := hr
        cases heq

/-- The same where every request is sent on as one request. -/
theorem lift {ι : Op → Op'} {f : (op : Op) → Prog Op' Res' ε (Res op)}
    {φ : Event Op Res → Event Op' Res'} {G' : List (Event Op' Res') → Op' → Prop}
    {Q : Except ε α → List (Event Op Res) → Prop} {h : List (Event Op Res)}
    (hcall : ∀ {op h'}, G' h' (ι op) →
      Sends i G' (fun r h'' => ∃ a, r = .ok a ∧ h'' = h' ++ [φ ⟨i, op, a⟩]) (f op) h')
    (hp : Sends i (fun h op => G' (h.map φ) (ι op)) Q p h) :
    Sends i G' (fun r h' => ∃ h₁, h' = h₁.map φ ∧ Q r h₁) (p.translate f) (h.map φ) := by
  refine Sends.translate (R := fun h h' => h' = h.map φ) ?_ hp rfl
  rintro op h h' rfl hG
  refine (hcall hG).post fun r h'' hr => ?_
  obtain ⟨a, hr, rfl⟩ := hr
  exact ⟨a, hr, by rw [List.map_append, List.map_singleton]⟩

theorem mapError {g : ε → ε'} {G : List (Event Op Res) → Op → Prop}
    {Q : Except ε' α → List (Event Op Res) → Prop} {h : List (Event Op Res)}
    (hp : Sends i G (fun r h => Q (r.mapError g) h) p h) : Sends i G Q (p.mapError g) h := by
  induction p generalizing h with
  | done a => exact hp
  | fail e => exact hp
  | call op k ih => exact ⟨hp.1, fun r => ih r (hp.2 r)⟩

end Sends

end Interleaving

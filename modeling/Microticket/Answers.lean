import Microticket.Prog

/-! # What a program may end with

`Gives A p r` says that `p` may end with `r` if every request may be given any of the answers `A`, and
`Always A Q p` that the value it ends with then satisfies `Q`, whatever the answers are (`Gives.always`).
Nothing relates the answers to one another, so requests may be answered at different moments. -/

namespace Interleaving

variable {Op : Type} {Res : Op → Type} {ε α β : Type}

/-- `p` may end with this outcome. -/
inductive Gives (A : (op : Op) → Res op → Prop) : Prog Op Res ε α → Except ε α → Prop
  | done (a : α) : Gives A (.done a) (.ok a)
  | fail (e : ε) : Gives A (.fail e) (.error e)
  | call {op : Op} {k : Res op → Prog Op Res ε α} {r : Res op} {out : Except ε α} (h : A op r)
      (hout : Gives A (k r) out) : Gives A (.call op k) out

/-- The value that `p` ends with satisfies `Q`. -/
def Always (A : (op : Op) → Res op → Prop) (Q : α → Prop) : Prog Op Res ε α → Prop
  | .done a => Q a
  | .fail _ => True
  | .call op k => ∀ r, A op r → Always A Q (k r)

section rules
variable {A A' : (op : Op) → Res op → Prop} {Q Q' : α → Prop} {R : β → Prop} {p : Prog Op Res ε α}

theorem Gives.mono {out : Except ε α} (h : Gives A p out) (hA : ∀ op r, A op r → A' op r) :
    Gives A' p out := by
  induction h with
  | done a => exact .done a
  | fail e => exact .fail e
  | call h _ ih => exact .call (hA _ _ h) ih

/-- What always holds holds of an outcome. -/
theorem Gives.always {a : α} (h : Gives A p (.ok a)) (hp : Always A Q p) : Q a := by
  generalize hout : Except.ok a = out at h
  induction h with
  | done a' =>
      obtain rfl := Except.ok.inj hout
      exact hp
  | fail e => cases hout
  | call hans _ ih => exact ih (hp _ hans) hout

namespace Always

theorem mono (hp : Always A Q p) (hQ : ∀ a, Q a → Q' a) : Always A Q' p := by
  induction p with
  | done a => exact hQ a hp
  | fail e => trivial
  | call op k ih => exact fun r hr => ih r (hp r hr)

/-- What does not depend on the value. -/
theorem const {P : Prop} (hP : P) (p : Prog Op Res ε α) : Always A (fun _ => P) p := by
  induction p with
  | done a => exact hP
  | fail e => trivial
  | call op k ih => exact fun r _ => ih r

theorem bind {f : α → Prog Op Res ε β} (hp : Always A Q p) (hf : ∀ a, Q a → Always A R (f a)) :
    Always A R (p >>= f) := by
  induction p with
  | done a => exact hf a hp
  | fail e => trivial
  | call op k ih => exact fun r hr => ih r (hp r hr)

theorem ensure {c : Prop} [Decidable c] {err : ε} {f : Unit → Prog Op Res ε β}
    (h : c → Always A R (f ())) : Always A R (Prog.ensure c err >>= f) := by
  by_cases hc : c
  · rw [Prog.ensure_pos hc]
    exact h hc
  · rw [Prog.ensure_neg hc]
    trivial

theorem ofExcept {r : Except ε α} {f : α → Prog Op Res ε β}
    (h : ∀ a, r = .ok a → Always A R (f a)) : Always A R (Prog.ofExcept r >>= f) := by
  cases r with
  | ok a => exact h a rfl
  | error e => trivial

theorem ofOption {o : Option α} {err : ε} {f : α → Prog Op Res ε β}
    (h : ∀ a, o = some a → Always A R (f a)) : Always A R (Prog.ofOption o err >>= f) := by
  cases o with
  | some a => exact h a rfl
  | none => trivial

theorem forEach {f : β → Prog Op Res ε α} {bs : List β} (hf : ∀ b ∈ bs, Always A Q (f b)) :
    Always A (fun as => ∀ a ∈ as, Q a) (Prog.forEach f bs) := by
  induction bs with
  | nil => exact fun a ha => by cases ha
  | cons b bs ih =>
      obtain ⟨hb, hbs⟩ := List.forall_mem_cons.mp hf
      refine hb.bind fun a ha => (ih hbs).bind fun as has => ?_
      exact List.forall_mem_cons.mpr ⟨ha, has⟩

end Always

end rules

end Interleaving

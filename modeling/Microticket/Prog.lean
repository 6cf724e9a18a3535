import Mathlib.Data.List.Basic
import Mathlib.Data.Nat.Notation

/-! # Programs that call a service

`Prog Op Res ε α` is a sequential program that sends requests `op : Op` to a shared service,
continues with the answer `r : Res op`, and ends with a value (`done`) or an error (`fail`).
One `call` is the unit of interleaving: answering it is atomic, and whatever other programs do
before the next `call` is not seen by this one except through its later answers.

`bind` sequences two programs (a failure skips the rest), `recover` handles a failure,
`ensure` fails unless a test holds, `forEach` runs a program on every element of a list. -/

namespace Interleaving

/-- A program over the requests `Op` with answers `Res`, errors `ε` and result `α`. -/
inductive Prog (Op : Type) (Res : Op → Type) (ε α : Type) where
  | done (a : α)
  | fail (e : ε)
  | call (op : Op) (k : Res op → Prog Op Res ε α)

namespace Prog

variable {Op : Type} {Res : Op → Type} {ε α β γ : Type}

/-- Run `p`, then `f` on its value. -/
protected def bind : Prog Op Res ε α → (α → Prog Op Res ε β) → Prog Op Res ε β
  | done a, f => f a
  | fail e, _ => fail e
  | call op k, f => call op fun r => (k r).bind f

/-- Run `p`; if it fails with `e`, run `h e`. -/
def recover : Prog Op Res ε α → (ε → Prog Op Res ε α) → Prog Op Res ε α
  | done a, _ => done a
  | fail e, h => h e
  | call op k, h => call op fun r => (k r).recover h

instance : Monad (Prog Op Res ε) where
  pure := done
  bind := Prog.bind

instance : MonadExcept ε (Prog Op Res ε) where
  throw := fail
  tryCatch := Prog.recover

@[simp] theorem pure_eq (a : α) : (pure a : Prog Op Res ε α) = done a := rfl

@[simp] theorem throw_eq (e : ε) : (throw e : Prog Op Res ε α) = fail e := rfl

@[simp] theorem done_bind (a : α) (f : α → Prog Op Res ε β) : (done a >>= f) = f a := rfl

@[simp] theorem fail_bind (e : ε) (f : α → Prog Op Res ε β) : (fail e >>= f) = fail e := rfl

@[simp] theorem call_bind (op : Op) (k : Res op → Prog Op Res ε α) (f : α → Prog Op Res ε β) :
    (call op k >>= f) = call op fun r => k r >>= f := rfl

theorem bind_assoc (p : Prog Op Res ε α) (f : α → Prog Op Res ε β) (g : β → Prog Op Res ε γ) :
    (p >>= f >>= g) = p >>= fun a => f a >>= g := by
  induction p with
  | done a => rfl
  | fail e => rfl
  | call op k ih => exact congrArg (call op) (funext ih)

/-- Fail with `e` unless `c` holds. -/
def ensure (c : Prop) [Decidable c] (e : ε) : Prog Op Res ε Unit :=
  if c then done () else fail e

theorem ensure_pos {c : Prop} [Decidable c] (h : c) (e : ε) :
    (ensure c e : Prog Op Res ε Unit) = done () := if_pos h

theorem ensure_neg {c : Prop} [Decidable c] (h : ¬ c) (e : ε) :
    (ensure c e : Prog Op Res ε Unit) = fail e := if_neg h

/-- The value of a computation that needs no request; its error becomes a failure. -/
def ofExcept : Except ε α → Prog Op Res ε α
  | .ok a => done a
  | .error e => fail e

@[simp] theorem ofExcept_ok (a : α) : (ofExcept (.ok a) : Prog Op Res ε α) = done a := rfl

@[simp] theorem ofExcept_error (e : ε) : (ofExcept (.error e) : Prog Op Res ε α) = fail e := rfl

/-- The value of an option; `e` if there is none. -/
def ofOption (o : Option α) (e : ε) : Prog Op Res ε α :=
  match o with
  | some a => done a
  | none => fail e

@[simp] theorem ofOption_some (a : α) (e : ε) :
    (ofOption (some a) e : Prog Op Res ε α) = done a := rfl

@[simp] theorem ofOption_none (e : ε) :
    (ofOption none e : Prog Op Res ε α) = fail e := rfl

/-- Forget the value. -/
def void (p : Prog Op Res ε α) : Prog Op Res ε Unit := p >>= fun _ => done ()

/-- Run `f` on every element, in order, and collect the values. -/
def forEach (f : β → Prog Op Res ε α) : List β → Prog Op Res ε (List α)
  | [] => done []
  | b :: bs => do
      let a ← f b
      let as ← forEach f bs
      return a :: as

/-! ### The requests a program can send -/

/-- Every request that `p` can send, whatever the answers, satisfies `P`. -/
def All (P : Op → Prop) : Prog Op Res ε α → Prop
  | done _ => True
  | fail _ => True
  | call op k => P op ∧ ∀ r, (k r).All P

section
variable {P : Op → Prop}

@[simp] theorem all_done (a : α) : (done a : Prog Op Res ε α).All P := trivial

@[simp] theorem all_fail (e : ε) : (fail e : Prog Op Res ε α).All P := trivial

theorem all_call (op : Op) (k : Res op → Prog Op Res ε α) :
    (call op k).All P ↔ P op ∧ ∀ r, (k r).All P := Iff.rfl

theorem All.bind {p : Prog Op Res ε α} {f : α → Prog Op Res ε β} (hp : p.All P)
    (hf : ∀ a, (f a).All P) : (p >>= f).All P := by
  induction p with
  | done a => exact hf a
  | fail e => trivial
  | call op k ih => exact ⟨hp.1, fun r => ih r (hp.2 r)⟩

theorem All.ofExcept_bind {r : Except ε α} {f : α → Prog Op Res ε β}
    (h : ∀ a, r = .ok a → (f a).All P) : (ofExcept r >>= f).All P := by
  cases r with
  | ok a => exact h a rfl
  | error e => trivial

theorem All.mono {Q : Op → Prop} {p : Prog Op Res ε α} (hp : p.All P) (h : ∀ op, P op → Q op) :
    p.All Q := by
  induction p with
  | done a => trivial
  | fail e => trivial
  | call op k ih => exact ⟨h op hp.1, fun r => ih r (hp.2 r)⟩

@[simp] theorem all_ensure (c : Prop) [Decidable c] (e : ε) :
    (ensure c e : Prog Op Res ε Unit).All P := by
  unfold ensure
  split <;> trivial

@[simp] theorem all_ofExcept (r : Except ε α) : (ofExcept r : Prog Op Res ε α).All P := by
  cases r <;> trivial

@[simp] theorem all_ofOption (o : Option α) (e : ε) : (ofOption o e : Prog Op Res ε α).All P := by
  cases o <;> trivial

theorem all_true (p : Prog Op Res ε α) : p.All fun _ => True := by
  induction p with
  | done a => trivial
  | fail e => trivial
  | call op k ih => exact ⟨trivial, ih⟩

/-- Every request of `p` satisfies `P`, and `p` does not fail. -/
def Total (P : Op → Prop) : Prog Op Res ε α → Prop
  | done _ => True
  | fail _ => False
  | call op k => P op ∧ ∀ r, (k r).Total P

theorem Total.bind {p : Prog Op Res ε α} {f : α → Prog Op Res ε β} (hp : p.Total P)
    (hf : ∀ a, (f a).Total P) : (p >>= f).Total P := by
  induction p with
  | done a => exact hf a
  | fail e => cases hp
  | call op k ih => exact ⟨hp.1, fun r => ih r (hp.2 r)⟩

theorem Total.all {p : Prog Op Res ε α} (hp : p.Total P) : p.All P := by
  induction p with
  | done a => trivial
  | fail e => trivial
  | call op k ih => exact ⟨hp.1, fun r => ih r (hp.2 r)⟩

theorem All.void {p : Prog Op Res ε α} (hp : p.All P) : p.void.All P :=
  hp.bind fun _ => trivial

theorem All.forEach {f : β → Prog Op Res ε α} (hf : ∀ b, (f b).All P) (bs : List β) :
    (forEach f bs).All P := by
  induction bs with
  | nil => trivial
  | cons b bs ih => exact (hf b).bind fun _ => ih.bind fun _ => trivial

end

end Prog

end Interleaving

import Microticket.Contract

/-! # Two services side by side

`S.pair T` is a service that answers the requests of both; a program of one of them is one of the
pair.  The requests of the others to `T` leave the part `t.left` of a trace as it is, so what the
programs of `S` keep under their contract also holds in every run of the pair (`Run.contract_left`). -/

namespace Interleaving

variable {Op Op' : Type} {Res : Op → Type} {Res' : Op' → Type} {ε α β : Type}

/-- The answers to the requests of either service. -/
abbrev EitherRes (Res : Op → Type) (Res' : Op' → Type) : Op ⊕ Op' → Type := Sum.elim Res Res'

/-- The two services, each with its own state. -/
@[reducible] def Service.pair (S : Service Op Res) (T : Service Op' Res') :
    Service (Op ⊕ Op') (EitherRes Res Res') where
  State := S.State × T.State
  Env := S.Env × T.Env
  Allowed s e := S.Allowed s.1 e.1 ∧ T.Allowed s.2 e.2
  serve s e
    | .inl op => ((S.serve s.1 e.1 op).1, (S.serve s.1 e.1 op).2, s.2)
    | .inr op => ((T.serve s.2 e.2 op).1, s.1, (T.serve s.2 e.2 op).2)

instance {S : Service Op Res} {T : Service Op' Res'} [∀ s e, Decidable (S.Allowed s e)]
    [∀ s e, Decidable (T.Allowed s e)] (s : (S.pair T).State) (e : (S.pair T).Env) :
    Decidable ((S.pair T).Allowed s e) :=
  inferInstanceAs (Decidable (S.Allowed s.1 e.1 ∧ T.Allowed s.2 e.2))

/-- A program of the first service as one of the pair. -/
def Prog.left : Prog Op Res ε α → Prog (Op ⊕ Op') (EitherRes Res Res') ε (α ⊕ β)
  | .done a => .done (.inl a)
  | .fail e => .fail e
  | .call op k => .call (.inl op) fun r => (k r).left

/-- A program of the second service as one of the pair. -/
def Prog.right : Prog Op' Res' ε β → Prog (Op ⊕ Op') (EitherRes Res Res') ε (α ⊕ β)
  | .done b => .done (.inr b)
  | .fail e => .fail e
  | .call op k => .call (.inr op) fun r => (k r).right

/-- The programs of either service. -/
def Either (Start : Prog Op Res ε α → Prop) (Start' : Prog Op' Res' ε β → Prop)
    (p : Prog (Op ⊕ Op') (EitherRes Res Res') ε (α ⊕ β)) : Prop :=
  (∃ q, Start q ∧ p = q.left) ∨ ∃ q, Start' q ∧ p = q.right

/-! ### The first part of a trace -/

/-- A request to the first service. -/
def Event.left? : Event (Op ⊕ Op') (EitherRes Res Res') → Option (Event Op Res)
  | ⟨i, .inl op, r⟩ => some ⟨i, op, r⟩
  | ⟨_, .inr _, _⟩ => none

/-- The requests to the first service. -/
def leftEvents (evs : List (Event (Op ⊕ Op') (EitherRes Res Res'))) : List (Event Op Res) :=
  evs.filterMap Event.left?

theorem leftEvents_append (evs evs' : List (Event (Op ⊕ Op') (EitherRes Res Res'))) :
    leftEvents (evs ++ evs') = leftEvents evs ++ leftEvents evs' := List.filterMap_append

theorem ownEvents_left (i : ℕ) (evs : List (Event (Op ⊕ Op') (EitherRes Res Res'))) :
    leftEvents (ownEvents i evs) = ownEvents i (leftEvents evs) := by
  induction evs with
  | nil => rfl
  | cons ev evs ih =>
      have hsplit : ∀ {O : Type} {R : O → Type} (x : Event O R) (xs : List (Event O R)),
          ownEvents i (x :: xs) = (if x.caller = i then [x] else []) ++ ownEvents i xs := by
        intro O R x xs
        by_cases hx : x.caller = i <;> simp [ownEvents, hx]
      rw [hsplit, leftEvents_append, ih]
      obtain ⟨j, op, r⟩ := ev
      cases op with
      | inl op =>
          have hcons : leftEvents (⟨j, .inl op, r⟩ :: evs) = ⟨j, op, r⟩ :: leftEvents evs := rfl
          rw [hcons, hsplit]
          by_cases hj : j = i
          · simp only [if_pos hj]
            rfl
          · simp only [if_neg hj]
            rfl
      | inr op =>
          have hcons : leftEvents (⟨j, .inr op, r⟩ :: evs) = leftEvents evs := rfl
          rw [hcons]
          by_cases hj : j = i
          · simp only [if_pos hj]
            rfl
          · simp only [if_neg hj]
            rfl

section
variable {S : Service Op Res} {T : Service Op' Res'}

/-- What the first service has seen. -/
def Trace.left (t : Trace (S.pair T)) : Trace S := ⟨leftEvents t.events, t.state.1⟩

theorem Trace.left_serve_inl (t : Trace (S.pair T)) (i : ℕ) (e : (S.pair T).Env) (op : Op) :
    (t.serve i e (.inl op)).left = t.left.serve i e.1 op := by
  unfold Trace.left Trace.serve
  rw [leftEvents_append]
  rfl

theorem Trace.left_serve_inr (t : Trace (S.pair T)) (i : ℕ) (e : (S.pair T).Env) (op : Op') :
    (t.serve i e (.inr op)).left = t.left := by
  unfold Trace.left Trace.serve
  rw [leftEvents_append]
  show (⟨leftEvents t.events ++ [], _⟩ : Trace S) = _
  rw [List.append_nil]

/-! ### Contracts -/

/-- A contract of the first service, for the pair. -/
def leftContract (G : List (Event Op Res) → Op → Prop)
    (h : List (Event (Op ⊕ Op') (EitherRes Res Res'))) : Op ⊕ Op' → Prop
  | .inl op => G (leftEvents h) op
  | .inr _ => True

theorem Sends.left {i : ℕ} {G : List (Event Op Res) → Op → Prop} {p : Prog Op Res ε α}
    {h : List (Event (Op ⊕ Op') (EitherRes Res Res'))}
    (hp : Sends i G (fun _ _ => True) p (leftEvents h)) :
    Sends i (leftContract G) (fun _ _ => True)
      (p.left : Prog (Op ⊕ Op') (EitherRes Res Res') ε (α ⊕ β)) h := by
  induction p generalizing h with
  | done a => trivial
  | fail e => trivial
  | call op k ih =>
      refine ⟨hp.1, fun r => ih r ?_⟩
      rw [leftEvents_append]
      exact hp.2 r

theorem Sends.right {i : ℕ} {G : List (Event Op Res) → Op → Prop} {p : Prog Op' Res' ε β}
    {h : List (Event (Op ⊕ Op') (EitherRes Res Res'))} :
    Sends i (leftContract G) (fun _ _ => True)
      (p.right : Prog (Op ⊕ Op') (EitherRes Res Res') ε (α ⊕ β)) h := by
  induction p generalizing h with
  | done a => trivial
  | fail e => trivial
  | call op k ih => exact ⟨trivial, fun r => ih r⟩

/-- What every request to the first service keeps under its contract holds along every run of the
pair. -/
theorem Run.contract_left {Start : Prog Op Res ε α → Prop} {Start' : Prog Op' Res' ε β → Prop}
    {G : ℕ → List (Event Op Res) → Op → Prop} {K : Trace S → Prop} {s : S.State} {s' : T.State}
    {c : Pool (S.pair T) ε (α ⊕ β)}
    (hstart : ∀ p, Start p → ∀ i, Sends i (G i) (fun _ _ => True) p [])
    (hstep : ∀ {t i e op}, K t → S.Allowed t.state e → G i (ownEvents i t.events) op →
      K (t.serve i e op))
    (h : Run (S.pair T) (Either Start Start') (Pool.init (s, s')) c) (h₀ : K ⟨[], s⟩) :
    K c.trace.left := by
  refine Run.contract (G := fun i => leftContract (G i)) (K := fun t => K t.left) ?_ ?_ h h₀
  · rintro p (⟨q, hq, rfl⟩ | ⟨q, -, rfl⟩) i
    · exact (hstart q hq i).left
    · exact .right
  · intro t i e op hK he hG
    cases op with
    | inl op =>
        rw [Trace.left_serve_inl]
        refine hstep hK he.1 ?_
        have hown : leftEvents (ownEvents i t.events) = ownEvents i t.left.events :=
          ownEvents_left i t.events
        rw [← hown]
        exact hG
    | inr op =>
        rw [Trace.left_serve_inr]
        exact hK

end

end Interleaving

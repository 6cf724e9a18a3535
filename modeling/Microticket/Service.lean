import Microticket.Prog
import Mathlib.Logic.Relation

/-! # Services, runs of a pool of programs, and the rely–guarantee rule

A `Service` answers one request at a time: `serve s e op` is the answer and the next state, where
`e : Env` collects what the service does not decide itself (the clock, a fresh identifier, a lost
connection, how stale a read is) and `Allowed s e` says which choices are possible in state `s`.

* `Prog.run` runs one program alone, with a stream of choices.
* A `Trace` is the state of the service with the list of the requests served so far; a `Pool` is a
  trace with any number of programs in progress, each named by its position.  A `Step` starts a
  program or serves the next request of one of them, and a `Run` is a sequence of steps, so every
  interleaving is a run.  `Pool.play` computes the run of a given schedule.
* A `Discipline` is an invariant `Inv`, a precondition `Pre` of requests and, for every program, a
  preorder `Rely` that the requests of the others respect.  `Safe i p Q t` says that `p`, running
  as number `i` from the trace `t`, only sends requests whose precondition holds when they are
  served, whatever the others do in between, and ends in `Q`.  If every program is safe then the
  invariant holds along every run (`Run.holds`), and every request that is served meets its
  precondition (`Holds.pre`).  Further assertions can be proved in a layer over a discipline that
  is already established (`Discipline.layer`).
* `Serves c c' ev` is the step that serves the request `ev`, and `c.since c'` the requests served
  between two pools. -/

namespace Interleaving

/-- A service with answers `Res` to the requests `Op`. -/
structure Service (Op : Type) (Res : Op → Type) where
  State : Type
  Env : Type
  Allowed : State → Env → Prop
  serve : State → Env → (op : Op) → Res op × State

variable {Op : Type} {Res : Op → Type} {ε α β : Type}

/-! ### One program alone -/

/-- Run a program alone: its outcome, the choices left over and the final state. -/
def Prog.run (S : Service Op Res) :
    Prog Op Res ε α → (ℕ → S.Env) → S.State → Except ε α × (ℕ → S.Env) × S.State
  | .done a, es, s => (.ok a, es, s)
  | .fail e, es, s => (.error e, es, s)
  | .call op k, es, s =>
      (k (S.serve s (es 0) op).1).run S (fun n => es (n + 1)) (S.serve s (es 0) op).2

namespace Prog

variable (S : Service Op Res)

@[simp] theorem run_done (a : α) (es : ℕ → S.Env) (s : S.State) :
    (done a : Prog Op Res ε α).run S es s = (.ok a, es, s) := rfl

@[simp] theorem run_fail (e : ε) (es : ℕ → S.Env) (s : S.State) :
    (fail e : Prog Op Res ε α).run S es s = (.error e, es, s) := rfl

@[simp] theorem run_call (op : Op) (k : Res op → Prog Op Res ε α) (es : ℕ → S.Env) (s : S.State) :
    (call op k).run S es s =
      (k (S.serve s (es 0) op).1).run S (fun n => es (n + 1)) (S.serve s (es 0) op).2 := rfl

theorem run_bind (p : Prog Op Res ε α) (f : α → Prog Op Res ε β) (es : ℕ → S.Env) (s : S.State) :
    (p >>= f).run S es s = match p.run S es s with
      | (.ok a, es', s') => (f a).run S es' s'
      | (.error e, es', s') => (.error e, es', s') := by
  induction p generalizing es s with
  | done a => rfl
  | fail e => rfl
  | call op k ih => exact ih _ _ _

end Prog

/-! ### Pools of programs -/

/-- A request that was served: the number of the program that sent it, and its answer. -/
structure Event (Op : Type) (Res : Op → Type) where
  caller : ℕ
  op : Op
  res : Res op

/-- The requests served so far, oldest first, and the state they led to. -/
structure Trace (S : Service Op Res) where
  events : List (Event Op Res)
  state : S.State

/-- Serve the request `op` of program `i`. -/
def Trace.serve {S : Service Op Res} (t : Trace S) (i : ℕ) (e : S.Env) (op : Op) : Trace S :=
  ⟨t.events ++ [⟨i, op, (S.serve t.state e op).1⟩], (S.serve t.state e op).2⟩

section
variable {S : Service Op Res} (t : Trace S) (i : ℕ) (e : S.Env) (op : Op)

@[simp] theorem Trace.serve_events :
    (t.serve i e op).events = t.events ++ [⟨i, op, (S.serve t.state e op).1⟩] := rfl

@[simp] theorem Trace.serve_state : (t.serve i e op).state = (S.serve t.state e op).2 := rfl

end

/-- A trace and the programs in progress. -/
structure Pool (S : Service Op Res) (ε α : Type) where
  trace : Trace S
  threads : List (Prog Op Res ε α)

/-- The pool with no program and no history. -/
def Pool.init {S : Service Op Res} (s : S.State) : Pool S ε α := ⟨⟨[], s⟩, []⟩

section runs
variable (S : Service Op Res) (Start : Prog Op Res ε α → Prop)

/-- One step: a program of `Start` begins, or the next request of some program is served. -/
inductive Step : Pool S ε α → Pool S ε α → Prop
  | start {c : Pool S ε α} (p : Prog Op Res ε α) (h : Start p) :
      Step c ⟨c.trace, c.threads ++ [p]⟩
  | serve {c : Pool S ε α} (i : ℕ) (e : S.Env) {op : Op} {k : Res op → Prog Op Res ε α}
      (hi : c.threads[i]? = some (.call op k)) (he : S.Allowed c.trace.state e) :
      Step c ⟨c.trace.serve i e op, c.threads.set i (k (S.serve c.trace.state e op).1)⟩

/-- Any number of steps. -/
abbrev Run : Pool S ε α → Pool S ε α → Prop := Relation.ReflTransGen (Step S Start)

end runs

/-! ### Schedules -/

section schedules
variable (S : Service Op Res) (Start : Prog Op Res ε α → Prop)

/-- One move of a schedule. -/
inductive Move where
  | start (p : Prog Op Res ε α) (h : Start p)
  | serve (i : ℕ) (e : S.Env)

variable {S Start} [∀ s e, Decidable (S.Allowed s e)]

/-- Make one move; a move that is not possible is skipped. -/
def Pool.move (c : Pool S ε α) : Move S Start → Pool S ε α
  | .start p _ => ⟨c.trace, c.threads ++ [p]⟩
  | .serve i e => match c.threads[i]? with
    | some (.call op k) =>
        if S.Allowed c.trace.state e then
          ⟨c.trace.serve i e op, c.threads.set i (k (S.serve c.trace.state e op).1)⟩
        else c
    | _ => c

/-- Play a schedule. -/
def Pool.play (c : Pool S ε α) : List (Move S Start) → Pool S ε α
  | [] => c
  | m :: ms => (c.move m).play ms

theorem Pool.move_step (c : Pool S ε α) (m : Move S Start) :
    c.move m = c ∨ Step S Start c (c.move m) := by
  cases m with
  | start p h => exact .inr (Step.start p h)
  | serve i e =>
      simp only [Pool.move]
      split
      · rename_i op k hi
        split
        · rename_i he
          exact .inr (Step.serve i e hi he)
        · exact .inl rfl
      · exact .inl rfl

theorem Pool.move_run (c : Pool S ε α) (m : Move S Start) : Run S Start c (c.move m) := by
  rcases c.move_step m with heq | hstep
  · rw [heq]
  · exact .single hstep

/-- Playing a schedule is a run. -/
theorem Pool.play_run (c : Pool S ε α) (ms : List (Move S Start)) : Run S Start c (c.play ms) := by
  induction ms generalizing c with
  | nil => exact .refl
  | cons m ms ih => exact (c.move_run m).trans (ih _)

theorem Pool.play_cons (c : Pool S ε α) (m : Move S Start) (ms : List (Move S Start)) :
    c.play (m :: ms) = (c.move m).play ms := rfl

theorem Pool.play_append (c : Pool S ε α) (ms ms' : List (Move S Start)) :
    c.play (ms ++ ms') = (c.play ms).play ms' := by
  induction ms generalizing c with
  | nil => rfl
  | cons m ms ih => exact ih _

end schedules

/-- The request that program `i` waits for. -/
def Pool.next {S : Service Op Res} (c : Pool S ε α) (i : ℕ) : Option Op :=
  match c.threads[i]? with
  | some (.call op _) => some op
  | _ => none

/-- The error that program `i` ended with. -/
def Pool.failure {S : Service Op Res} (c : Pool S ε α) (i : ℕ) : Option ε :=
  match c.threads[i]? with
  | some (.fail e) => some e
  | _ => none

/-- The value that program `i` ended with. -/
def Pool.value {S : Service Op Res} (c : Pool S ε α) (i : ℕ) : Option α :=
  match c.threads[i]? with
  | some (.done a) => some a
  | _ => none

theorem Pool.value_some {S : Service Op Res} {c : Pool S ε α} {i : ℕ} {a : α}
    (h : c.value i = some a) : c.threads[i]? = some (.done a) := by
  unfold Pool.value at h
  split at h
  · rename_i a' hi
    obtain rfl := Option.some.inj h
    exact hi
  · cases h

theorem Pool.failure_some {S : Service Op Res} {c : Pool S ε α} {i : ℕ} {e : ε}
    (h : c.failure i = some e) : c.threads[i]? = some (.fail e) := by
  unfold Pool.failure at h
  split at h
  · rename_i e' hi
    obtain rfl := Option.some.inj h
    exact hi
  · cases h

theorem Pool.next_some {S : Service Op Res} {c : Pool S ε α} {i : ℕ} {op : Op}
    (h : c.next i = some op) : ∃ k, c.threads[i]? = some (.call op k) := by
  unfold Pool.next at h
  split at h
  · rename_i op' k hi
    obtain rfl := Option.some.inj h
    exact ⟨k, hi⟩
  · cases h

/-! ### Histories -/

/-- `t'` has all requests of `t`, and no others of program `i`. -/
structure Trace.Extends {S : Service Op Res} (i : ℕ) (t t' : Trace S) : Prop where
  events : ∀ {ev}, ev ∈ t.events → ev ∈ t'.events
  own : ∀ {ev}, ev ∈ t'.events → ev.caller = i → ev ∈ t.events

section
variable {S : Service Op Res} {i j : ℕ} {t t₁ t₂ t₃ : Trace S}

theorem Trace.Extends.refl (i : ℕ) (t : Trace S) : t.Extends i t := ⟨id, fun h _ => h⟩

theorem Trace.Extends.trans (h₁ : t₁.Extends i t₂) (h₂ : t₂.Extends i t₃) : t₁.Extends i t₃ :=
  ⟨fun h => h₂.events (h₁.events h), fun h hi => h₁.own (h₂.own h hi) hi⟩

theorem Trace.Extends.serve (hne : j ≠ i) (e : S.Env) (op : Op) : t.Extends j (t.serve i e op) := by
  refine ⟨fun h => List.mem_append_left _ h, fun {ev} h hj => ?_⟩
  rcases List.mem_append.mp h with h | h
  · exact h
  · rw [List.mem_singleton.mp h] at hj
    exact absurd hj.symm hne

end

/-! ### The rely–guarantee rule -/

/-- An invariant, a precondition of requests, and what program `i` may rely on of the others. -/
structure Assertions (S : Service Op Res) where
  Inv : Trace S → Prop
  Rely : ℕ → Trace S → Trace S → Prop
  Pre : ℕ → Trace S → Op → Prop
  refl : ∀ i t, Rely i t t
  trans : ∀ {i t₁ t₂ t₃}, Rely i t₁ t₂ → Rely i t₂ t₃ → Rely i t₁ t₃

namespace Assertions

variable {S : Service Op Res} {A : Assertions S} {i : ℕ}

/-- `p`, running as number `i` from `t`, sends only requests whose precondition holds when they
are served, and ends in `Q`; before every request the others may have moved along `Rely i`. -/
def Safe (A : Assertions S) (i : ℕ) :
    Prog Op Res ε α → (Except ε α → Trace S → Prop) → Trace S → Prop
  | .done a, Q, t => Q (.ok a) t
  | .fail e, Q, t => Q (.error e) t
  | .call op k, Q, t => ∀ t₁, A.Rely i t t₁ → A.Inv t₁ → A.Pre i t₁ op ∧
      ∀ e, S.Allowed t₁.state e →
        Safe A i (k (S.serve t₁.state e op).1) Q (t₁.serve i e op)

/-- Safe, whatever the outcome. -/
abbrev Secure (A : Assertions S) (i : ℕ) (p : Prog Op Res ε α) (t : Trace S) : Prop :=
  A.Safe i p (fun _ _ => True) t

@[simp] theorem safe_done (a : α) (Q : Except ε α → Trace S → Prop) (t : Trace S) :
    A.Safe i (.done a) Q t ↔ Q (.ok a) t := Iff.rfl

@[simp] theorem safe_fail (e : ε) (Q : Except ε α → Trace S → Prop) (t : Trace S) :
    A.Safe i (.fail e) Q t ↔ Q (.error e) t := Iff.rfl

theorem Safe.mono {p : Prog Op Res ε α} {Q Q' : Except ε α → Trace S → Prop} {t : Trace S}
    (h : A.Safe i p Q t) (hQ : ∀ r t, Q r t → Q' r t) : A.Safe i p Q' t := by
  induction p generalizing t with
  | done a => exact hQ _ _ h
  | fail e => exact hQ _ _ h
  | call op k ih =>
      intro t₁ h₁ hi
      obtain ⟨hp, hk⟩ := h t₁ h₁ hi
      exact ⟨hp, fun e he => ih _ (hk e he)⟩

/-- Sequencing: the second program starts where the first one ends. -/
theorem Safe.bind {p : Prog Op Res ε α} {f : α → Prog Op Res ε β}
    {Q : Except ε α → Trace S → Prop} {R : Except ε β → Trace S → Prop} {t : Trace S}
    (h : A.Safe i p Q t) (hok : ∀ a t, Q (.ok a) t → A.Safe i (f a) R t)
    (herr : ∀ e t, Q (.error e) t → R (.error e) t) : A.Safe i (p >>= f) R t := by
  induction p generalizing t with
  | done a => exact hok a t h
  | fail e => exact herr e t h
  | call op k ih =>
      intro t₁ h₁ hi
      obtain ⟨hp, hk⟩ := h t₁ h₁ hi
      exact ⟨hp, fun e he => ih _ (hk e he)⟩

theorem Safe.ensure {c : Prop} [Decidable c] {err : ε} {f : Unit → Prog Op Res ε β}
    {R : Except ε β → Trace S → Prop} {t : Trace S} (hok : c → A.Safe i (f ()) R t)
    (herr : ¬ c → R (.error err) t) : A.Safe i (Prog.ensure c err >>= f) R t := by
  by_cases h : c
  · rw [Prog.ensure_pos h]
    exact hok h
  · rw [Prog.ensure_neg h]
    exact herr h

theorem Safe.ofExcept {r : Except ε α} {f : α → Prog Op Res ε β}
    {R : Except ε β → Trace S → Prop} {t : Trace S} (hok : ∀ a, r = .ok a → A.Safe i (f a) R t)
    (herr : ∀ e, r = .error e → R (.error e) t) : A.Safe i (Prog.ofExcept r >>= f) R t := by
  cases r with
  | ok a => exact hok a rfl
  | error e => exact herr e rfl

theorem Safe.ofOption {o : Option α} {err : ε} {f : α → Prog Op Res ε β}
    {R : Except ε β → Trace S → Prop} {t : Trace S} (hok : ∀ a, o = some a → A.Safe i (f a) R t)
    (herr : o = none → R (.error err) t) : A.Safe i (Prog.ofOption o err >>= f) R t := by
  cases o with
  | some a => exact hok a rfl
  | none => exact herr rfl

/-- A program whose requests may always be sent keeps what they and the others keep. -/
theorem Safe.stable {P : Op → Prop} {K : Trace S → Prop}
    (hpre : ∀ {op t}, P op → K t → A.Inv t → A.Pre i t op)
    (hrely : ∀ {t t'}, K t → A.Rely i t t' → K t')
    (hserve : ∀ {op t e}, P op → K t → A.Inv t → S.Allowed t.state e → K (t.serve i e op))
    {p : Prog Op Res ε α} (hp : p.All P) {t : Trace S} (h : K t) :
    A.Safe i p (fun _ t' => K t') t := by
  induction p generalizing t with
  | done a => exact h
  | fail e => exact h
  | call op k ih =>
      intro t₁ h₁ hi
      have hK := hrely h h₁
      exact ⟨hpre hp.1 hK hi, fun e he => ih _ (hp.2 _) (hserve hp.1 hK hi he)⟩

/-- A secure program stays secure while the others move along `Rely`. -/
theorem Secure.rely {p : Prog Op Res ε α} {t t' : Trace S} (h : A.Secure i p t)
    (hr : A.Rely i t t') : A.Secure i p t' := by
  cases p with
  | done a => trivial
  | fail e => trivial
  | call op k => exact fun t₁ h₁ hi => h t₁ (A.trans hr h₁) hi

theorem Secure.void {p : Prog Op Res ε α} {t : Trace S} (h : A.Secure i p t) :
    A.Secure i p.void t := h.bind (fun _ _ _ => trivial) fun _ _ _ => trivial

/-- A program is secure if all its requests always meet their precondition. -/
theorem Secure.of_all {P : Op → Prop} (hP : ∀ op, P op → ∀ i t, A.Pre i t op)
    {p : Prog Op Res ε α} (hp : p.All P) (t : Trace S) : A.Secure i p t := by
  have hK : (fun _ : Trace S => True) t := trivial
  exact Safe.stable (fun h _ _ => hP _ h _ _) (fun _ _ => trivial) (fun _ _ _ _ => trivial) hp hK

end Assertions

/-- Assertions such that every request served under its precondition keeps the invariant and the
relies of the others. -/
structure Discipline (S : Service Op Res) extends Assertions S where
  inv_step : ∀ {i t e op}, Inv t → S.Allowed t.state e → Pre i t op → Inv (t.serve i e op)
  rely_step : ∀ {i j t e op}, j ≠ i → Inv t → S.Allowed t.state e → Pre i t op →
    Rely j t (t.serve i e op)

namespace Discipline

variable {S : Service Op Res} {D : Discipline S} {i : ℕ}

/-- The invariant holds, every program in progress is secure, and only these have a history. -/
structure Holds (D : Discipline S) (c : Pool S ε α) : Prop where
  inv : D.Inv c.trace
  secure : ∀ i p, c.threads[i]? = some p → D.Secure i p c.trace
  callers : ∀ ev ∈ c.trace.events, ev.caller < c.threads.length

theorem Holds.init {s : S.State} (h : D.Inv ⟨[], s⟩) :
    D.Holds (Pool.init s : Pool S ε α) where
  inv := h
  secure := by simp [Pool.init]
  callers := by simp [Pool.init]

/-- In a pool of secure programs every request that can be served meets its precondition. -/
theorem Holds.pre {c : Pool S ε α} (hc : D.Holds c) {op : Op} {k : Res op → Prog Op Res ε α}
    (hi : c.threads[i]? = some (.call op k)) : D.Pre i c.trace op :=
  (hc.secure i _ hi _ (D.refl i _) hc.inv).1

/-- Programs that are secure from every trace that holds none of their requests. -/
def Starts (D : Discipline S) (Start : Prog Op Res ε α → Prop) : Prop :=
  ∀ p, Start p → ∀ i t, D.Inv t → (∀ ev ∈ t.events, ev.caller ≠ i) → D.Secure i p t

variable {Start : Prog Op Res ε α → Prop}

theorem Holds.step (hstart : D.Starts Start) {c c' : Pool S ε α} (h : Step S Start c c')
    (hc : D.Holds c) : D.Holds c' := by
  cases h with
  | start p hp =>
      refine ⟨hc.inv, fun i q hq => ?_, fun ev hev => ?_⟩
      · rcases Nat.lt_trichotomy i c.threads.length with hlt | rfl | hgt
        · rw [List.getElem?_append_left hlt] at hq
          exact hc.secure i q hq
        · rw [List.getElem?_concat_length, Option.some.injEq] at hq
          subst hq
          exact hstart _ hp _ _ hc.inv fun ev hev =>
            Nat.ne_of_lt (hc.callers ev hev)
        · rw [List.getElem?_eq_none (by simp; omega)] at hq
          cases hq
      · have := hc.callers ev hev
        simp only [List.length_append, List.length_singleton]
        omega
  | serve i e hi he =>
      have hlt := (List.getElem?_eq_some_iff.mp hi).1
      obtain ⟨hp, hk⟩ := hc.secure i _ hi _ (D.refl i _) hc.inv
      refine ⟨D.inv_step hc.inv he hp, fun j q hq => ?_, fun ev hev => ?_⟩
      · by_cases hij : i = j
        · subst hij
          rw [List.getElem?_set_self hlt, Option.some.injEq] at hq
          exact hq ▸ hk e he
        · rw [List.getElem?_set_ne hij] at hq
          exact (hc.secure j q hq).rely (D.rely_step (Ne.symm hij) hc.inv he hp)
      · rw [List.length_set]
        rcases List.mem_append.mp hev with hev | hev
        · exact hc.callers ev hev
        · rw [List.mem_singleton.mp hev]
          exact hlt

/-- Along every run of safe programs the invariant holds and the programs stay safe. -/
theorem Run.holds (hstart : D.Starts Start) {c c' : Pool S ε α} (h : Run S Start c c')
    (hc : D.Holds c) : D.Holds c' := by
  induction h with
  | refl => exact hc
  | tail _ hs ih => exact ih.step hstart hs

end Discipline

/-! ### Layers -/

section layers
variable {S : Service Op Res}

/-- The assertions `A` for programs that already follow `D`. -/
def Assertions.over (A : Assertions S) (D : Discipline S) : Assertions S where
  Inv t := D.Inv t ∧ A.Inv t
  Rely i t t' := D.Rely i t t' ∧ A.Rely i t t'
  Pre := A.Pre
  refl i t := ⟨D.refl i t, A.refl i t⟩
  trans h h' := ⟨D.trans h.1 h'.1, A.trans h.2 h'.2⟩

/-- A discipline with further assertions, whose steps may use that of the discipline. -/
def Discipline.layer (D : Discipline S) (A : Assertions S)
    (inv_step : ∀ {i t e op}, D.Inv t → A.Inv t → S.Allowed t.state e → D.Pre i t op →
      A.Pre i t op → A.Inv (t.serve i e op))
    (rely_step : ∀ {i j t e op}, j ≠ i → D.Inv t → A.Inv t → S.Allowed t.state e → D.Pre i t op →
      A.Pre i t op → A.Rely j t (t.serve i e op)) : Discipline S where
  Inv t := D.Inv t ∧ A.Inv t
  Rely i t t' := D.Rely i t t' ∧ A.Rely i t t'
  Pre i t op := D.Pre i t op ∧ A.Pre i t op
  refl i t := ⟨D.refl i t, A.refl i t⟩
  trans h h' := ⟨D.trans h.1 h'.1, A.trans h.2 h'.2⟩
  inv_step h he hp := ⟨D.inv_step h.1 he hp.1, inv_step h.1 h.2 he hp.1 hp.2⟩
  rely_step hne h he hp := ⟨D.rely_step hne h.1 he hp.1, rely_step hne h.1 h.2 he hp.1 hp.2⟩

/-- What a program achieves under the discipline it also achieves in the layer. -/
theorem Assertions.Safe.over {D : Discipline S} {A : Assertions S} {i : ℕ} {p : Prog Op Res ε α}
    {Q Q' : Except ε α → Trace S → Prop} {t : Trace S} (hD : D.Safe i p Q t)
    (hA : (A.over D).Safe i p Q' t) : (A.over D).Safe i p (fun r t => Q r t ∧ Q' r t) t := by
  induction p generalizing t with
  | done a => exact ⟨hD, hA⟩
  | fail e => exact ⟨hD, hA⟩
  | call op k ih =>
      intro t₁ h₁ hi
      obtain ⟨-, hk⟩ := hD t₁ h₁.1 hi.1
      obtain ⟨hp, hk'⟩ := hA t₁ h₁ hi
      exact ⟨hp, fun e he => ih _ (hk e he) (hk' e he)⟩

/-- A program that is secure for the discipline and for the layer is secure for both. -/
theorem Assertions.Secure.layer {D : Discipline S} {A : Assertions S} {inv_step rely_step}
    {i : ℕ} {p : Prog Op Res ε α} {t : Trace S} (hD : D.Secure i p t)
    (hA : (A.over D).Secure i p t) : (D.layer A inv_step rely_step).Secure i p t := by
  induction p generalizing t with
  | done a => trivial
  | fail e => trivial
  | call op k ih =>
      intro t₁ h₁ hi
      obtain ⟨hp, hk⟩ := hD t₁ h₁.1 hi.1
      obtain ⟨hp', hk'⟩ := hA t₁ h₁ hi
      exact ⟨⟨hp, hp'⟩, fun e he => ih _ (hk e he) (hk' e he)⟩

end layers

/-! ### What a run serves -/

section served
variable {S : Service Op Res} {Start : Prog Op Res ε α → Prop} {c c' c'' : Pool S ε α}

/-- The step from `c` to `c'` that serves the request `ev`. -/
def Serves (S : Service Op Res) (Start : Prog Op Res ε α → Prop) (c c' : Pool S ε α)
    (ev : Event Op Res) : Prop :=
  Step S Start c c' ∧ c'.trace.events = c.trace.events ++ [ev]

theorem Serves.trace {ev : Event Op Res} (h : Serves S Start c c' ev) :
    ∃ e k, c.threads[ev.caller]? = some (.call ev.op k) ∧ S.Allowed c.trace.state e ∧
      c'.trace = c.trace.serve ev.caller e ev.op ∧ ev.res = (S.serve c.trace.state e ev.op).1 := by
  obtain ⟨hstep, hevents⟩ := h
  cases hstep with
  | start p hp => simp at hevents
  | serve i e hi he =>
      rename_i op k
      rw [Trace.serve_events, List.append_cancel_left_eq, List.cons_eq_cons] at hevents
      obtain ⟨rfl, -⟩ := hevents
      exact ⟨e, k, hi, he, rfl, rfl⟩

/-- The move of a schedule that serves `op`. -/
theorem Pool.move_serves [∀ s e, Decidable (S.Allowed s e)] {i : ℕ} {e : S.Env} {op : Op}
    {r : Res op} (h : c.next i = some op) (he : S.Allowed c.trace.state e)
    (hr : (S.serve c.trace.state e op).1 = r) :
    Serves S Start c (c.move (Move.serve i e : Move S Start)) ⟨i, op, r⟩ := by
  obtain ⟨k, hi⟩ := Pool.next_some h
  have hmove : c.move (Move.serve i e : Move S Start) =
      ⟨c.trace.serve i e op, c.threads.set i (k (S.serve c.trace.state e op).1)⟩ := by
    simp only [Pool.move, hi, if_pos he]
  subst hr
  rw [hmove]
  exact ⟨.serve i e hi he, rfl⟩

/-- The requests served between two pools of a run. -/
def Pool.since (c c' : Pool S ε α) : List (Event Op Res) :=
  c'.trace.events.drop c.trace.events.length

theorem Step.events (h : Step S Start c c') : c'.trace.events = c.trace.events ∨
    ∃ ev, Serves S Start c c' ev := by
  cases h with
  | start p hp => exact .inl rfl
  | serve i e hi he => exact .inr ⟨_, .serve i e hi he, rfl⟩

theorem Run.grows (h : Run S Start c c') : c.trace.events <+: c'.trace.events := by
  induction h with
  | refl => exact List.prefix_refl _
  | tail _ hs ih =>
      rcases hs.events with heq | ⟨ev, -, heq⟩
      · exact heq ▸ ih
      · exact heq ▸ ih.trans (List.prefix_append _ _)

/-- What was served since, if it was not served before. -/
theorem Run.since_of_new {ev : Event Op Res} (h : Run S Start c c') (hev : ev ∈ c'.trace.events)
    (hnew : ev ∉ c.trace.events) : ev ∈ c.since c' := by
  obtain ⟨more, hmore⟩ := h.grows
  rw [Pool.since, ← hmore, List.drop_left]
  rw [← hmore] at hev
  exact (List.mem_append.mp hev).resolve_left hnew

theorem Run.since_step (h : Run S Start c c') (hs : Step S Start c' c'') :
    c.since c'' = c.since c' ∨
      ∃ ev, Serves S Start c' c'' ev ∧ c.since c'' = c.since c' ++ [ev] := by
  rcases hs.events with heq | ⟨ev, hev⟩
  · exact .inl (by rw [Pool.since, heq, Pool.since])
  · refine .inr ⟨ev, hev, ?_⟩
    rw [Pool.since, hev.2, List.drop_append_of_le_length (Run.grows h).length_le, Pool.since]

/-- Induction along a run whose requests all satisfy `P`: what the other steps and the requests with
`P` keep holds in the end. -/
theorem Run.keeps {P : Event Op Res → Prop} {K : Trace S → Prop}
    (hserve : ∀ {c₁ c₂ ev}, Run S Start c c₁ → Serves S Start c₁ c₂ ev → P ev → K c₁.trace →
      K c₂.trace)
    (h : Run S Start c c') (hP : ∀ ev ∈ c.since c', P ev) (hc : K c.trace) : K c'.trace := by
  induction h with
  | refl => exact hc
  | tail hr hs ih =>
      rcases Run.since_step hr hs with heq | ⟨ev, hev, heq⟩
      · have hK := ih (heq ▸ hP)
        cases hs with
        | start p hp => exact hK
        | serve i e hi he =>
            have := congrArg List.length heq
            have hlen := (Run.grows hr).length_le
            simp only [Pool.since, List.length_drop, Trace.serve_events, List.length_append,
              List.length_singleton] at this
            omega
      · rw [heq] at hP
        exact hserve hr hev (hP ev (List.mem_append_right _ (List.mem_singleton_self _)))
          (ih fun ev' h => hP ev' (List.mem_append_left _ h))

end served

/-! ### Relations that hold along a run -/

/-- A preorder that every served request of a disciplined pool follows relates the ends of every
run. -/
theorem Run.follows {S : Service Op Res} (D : Discipline S) {Start : Prog Op Res ε α → Prop}
    {R : Trace S → Trace S → Prop} (hrefl : ∀ t, R t t)
    (htrans : ∀ {t₁ t₂ t₃}, R t₁ t₂ → R t₂ t₃ → R t₁ t₃)
    (hserve : ∀ {i t e op}, D.Inv t → S.Allowed t.state e → D.Pre i t op → R t (t.serve i e op))
    (hstart : D.Starts Start) {c c' : Pool S ε α} (h : Run S Start c c') (hc : D.Holds c) :
    R c.trace c'.trace := by
  induction h with
  | refl => exact hrefl _
  | tail hr hs ih =>
      have hm := Discipline.Run.holds hstart hr hc
      refine htrans ih ?_
      cases hs with
      | start p hp => exact hrefl _
      | serve i e hi he => exact hserve hm.inv he (hm.pre hi)

end Interleaving

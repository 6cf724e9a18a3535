import Microticket.Service

/-! # The requests of one program along a run

`Path i p evs q` says that program number `i` goes from `p` to `q` when the requests `evs` are
served to it, whatever the answers are.  Between two pools of a run every program follows such a
path through its own requests (`Run.path`), and each of these requests is a step of the run
(`Run.split`).  So what holds of all paths of a program holds under every interleaving.

`Path` is deterministic in `evs`; `bind_done`, `bind_fail` and their companions take the path of a
composed program apart. -/

namespace Interleaving

variable {Op : Type} {Res : Op → Type} {ε α β : Type}

/-- Program number `i` goes from `p` to `q` by the requests `evs`. -/
inductive Path (i : ℕ) : Prog Op Res ε α → List (Event Op Res) → Prog Op Res ε α → Prop
  | nil (p : Prog Op Res ε α) : Path i p [] p
  | call {op : Op} {k : Res op → Prog Op Res ε α} {r : Res op} {evs : List (Event Op Res)}
      {q : Prog Op Res ε α} (h : Path i (k r) evs q) : Path i (.call op k) (⟨i, op, r⟩ :: evs) q

namespace Path

variable {i : ℕ} {p q q' : Prog Op Res ε α} {evs evs' : List (Event Op Res)}

theorem append (h : Path i p evs q) (h' : Path i q evs' q') : Path i p (evs ++ evs') q' := by
  induction h with
  | nil p => exact h'
  | call _ ih => exact .call (ih h')

theorem single {op : Op} {k : Res op → Prog Op Res ε α} (r : Res op) :
    Path i (.call op k) [⟨i, op, r⟩] (k r) := .call (.nil _)

/-- The same requests lead to the same program. -/
theorem drop (h : Path i p evs q) (h' : Path i p (evs ++ evs') q') : Path i q evs' q' := by
  induction h with
  | nil p => exact h'
  | call _ ih =>
      cases h' with
      | call h' => exact ih h'

theorem of_done {a : α} (h : Path i (.done a) evs q) : evs = [] ∧ q = .done a := by
  cases h
  exact ⟨rfl, rfl⟩

theorem of_fail {e : ε} (h : Path i (.fail e) evs q) : evs = [] ∧ q = .fail e := by
  cases h
  exact ⟨rfl, rfl⟩

/-- The first request of a program that waits for an answer and ends elsewhere. -/
theorem of_call {op : Op} {k : Res op → Prog Op Res ε α} {e : ε}
    (h : Path i (.call op k) evs (.fail e)) :
    ∃ r rest, evs = ⟨i, op, r⟩ :: rest ∧ Path i (k r) rest (.fail e) := by
  cases h with
  | call h => exact ⟨_, _, rfl, h⟩

theorem all {P : Op → Prop} (h : Path i p evs q) (hp : p.All P) : ∀ ev ∈ evs, P ev.op := by
  induction h with
  | nil p => simp
  | call _ ih =>
      rw [List.forall_mem_cons]
      exact ⟨hp.1, ih (hp.2 _)⟩

theorem bind {a : α} {f : α → Prog Op Res ε β} {q : Prog Op Res ε β}
    (h : Path i p evs (.done a)) (h' : Path i (f a) evs' q) : Path i (p >>= f) (evs ++ evs') q := by
  generalize hd : Prog.done a = d at h
  induction h with
  | nil p =>
      subst hd
      exact h'
  | call _ ih => exact .call (ih hd)

/-- A composed program fails in its first part or in its second. -/
theorem bind_fail {f : α → Prog Op Res ε β} {e : ε} (h : Path i (p >>= f) evs (.fail e)) :
    Path i p evs (.fail e) ∨ ∃ a evs₁ evs₂, evs = evs₁ ++ evs₂ ∧ Path i p evs₁ (.done a) ∧
      Path i (f a) evs₂ (.fail e) := by
  induction p generalizing evs with
  | done a => exact .inr ⟨a, [], evs, rfl, .nil _, h⟩
  | fail e' =>
      obtain ⟨rfl, he⟩ := of_fail h
      cases he
      exact .inl (.nil _)
  | call op k ih =>
      obtain ⟨r, rest, rfl, hk⟩ := of_call h
      rcases ih r hk with h | ⟨a, evs₁, evs₂, rfl, h₁, h₂⟩
      · exact .inl (.call h)
      · exact .inr ⟨a, _ :: evs₁, evs₂, rfl, .call h₁, h₂⟩

/-- A composed program is done when both parts are. -/
theorem bind_done {f : α → Prog Op Res ε β} {b : β} (h : Path i (p >>= f) evs (.done b)) :
    ∃ a evs₁ evs₂, evs = evs₁ ++ evs₂ ∧ Path i p evs₁ (.done a) ∧ Path i (f a) evs₂ (.done b) := by
  induction p generalizing evs with
  | done a => exact ⟨a, [], evs, rfl, .nil _, h⟩
  | fail e' => cases h
  | call op k ih =>
      cases h with
      | call h =>
          obtain ⟨a, evs₁, evs₂, rfl, h₁, h₂⟩ := ih _ h
          exact ⟨a, _ :: evs₁, evs₂, rfl, .call h₁, h₂⟩

theorem ensure_fail {c : Prop} [Decidable c] {err e : ε} {f : Unit → Prog Op Res ε β}
    (h : Path i (Prog.ensure c err >>= f) evs (.fail e)) :
    ¬ c ∧ evs = [] ∨ c ∧ Path i (f ()) evs (.fail e) := by
  by_cases hc : c
  · rw [Prog.ensure_pos hc] at h
    exact .inr ⟨hc, h⟩
  · rw [Prog.ensure_neg hc] at h
    exact .inl ⟨hc, (of_fail h).1⟩

theorem ofExcept_fail {r : Except ε α} {e : ε} {f : α → Prog Op Res ε β}
    (h : Path i (Prog.ofExcept r >>= f) evs (.fail e)) :
    r = .error e ∧ evs = [] ∨ ∃ a, r = .ok a ∧ Path i (f a) evs (.fail e) := by
  cases r with
  | ok a => exact .inr ⟨a, rfl, h⟩
  | error e' =>
      obtain ⟨rfl, he⟩ := of_fail h
      cases he
      exact .inl ⟨rfl, rfl⟩

theorem ofOption_fail {o : Option α} {err e : ε} {f : α → Prog Op Res ε β}
    (h : Path i (Prog.ofOption o err >>= f) evs (.fail e)) :
    o = none ∧ evs = [] ∨ ∃ a, o = some a ∧ Path i (f a) evs (.fail e) := by
  cases o with
  | some a => exact .inr ⟨a, rfl, h⟩
  | none => exact .inl ⟨rfl, (of_fail h).1⟩

end Path

/-! ### Runs -/

section
variable {S : Service Op Res} {Start : Prog Op Res ε α → Prop} {c c' : Pool S ε α} {i : ℕ}

/-- The requests of program `i` among `evs`. -/
def ownEvents (i : ℕ) (evs : List (Event Op Res)) : List (Event Op Res) :=
  evs.filter fun ev => ev.caller = i

theorem mem_ownEvents {evs : List (Event Op Res)} {ev : Event Op Res} :
    ev ∈ ownEvents i evs ↔ ev ∈ evs ∧ ev.caller = i := by
  simp [ownEvents]

/-- Along a run a program follows the path of its own requests. -/
theorem Run.path {p : Prog Op Res ε α} (h : Run S Start c c') (hi : c.threads[i]? = some p) :
    ∃ q, c'.threads[i]? = some q ∧ Path i p (ownEvents i (c.since c')) q := by
  induction h with
  | refl =>
      refine ⟨p, hi, ?_⟩
      rw [Pool.since, List.drop_length]
      exact .nil p
  | tail hr hs ih =>
      obtain ⟨q, hq, hpath⟩ := ih
      cases hs with
      | start p' hp' =>
          refine ⟨q, ?_, hpath⟩
          rw [List.getElem?_append_left (List.getElem?_eq_some_iff.mp hq).1]
          exact hq
      | serve j e hj he =>
          rw [Pool.since, Trace.serve_events,
            List.drop_append_of_le_length (Run.grows hr).length_le, ownEvents, List.filter_append]
          by_cases hij : j = i
          · subst hij
            obtain rfl := Option.some.inj (hq.symm.trans hj)
            refine ⟨_, List.getElem?_set_self (List.getElem?_eq_some_iff.mp hj).1, ?_⟩
            rw [List.filter_singleton, decide_eq_true rfl, cond_true]
            exact hpath.append (.single _)
          · refine ⟨q, ?_, ?_⟩
            · rw [List.getElem?_set_ne hij]
              exact hq
            · rw [List.filter_singleton, decide_eq_false hij, cond_false, List.append_nil]
              exact hpath

/-- A request that was served during a run is a step of it. -/
theorem Run.split {ev : Event Op Res} (h : Run S Start c c') (hev : ev ∈ c.since c') :
    ∃ c₁ c₂, Run S Start c c₁ ∧ Serves S Start c₁ c₂ ev ∧ Run S Start c₂ c' := by
  induction h with
  | refl =>
      rw [Pool.since, List.drop_length] at hev
      cases hev
  | tail hr hs ih =>
      rcases Run.since_step hr hs with heq | ⟨ev', hserves, heq⟩
      · obtain ⟨c₁, c₂, h₁, h₂, h₃⟩ := ih (heq ▸ hev)
        exact ⟨c₁, c₂, h₁, h₂, h₃.tail hs⟩
      · rw [heq, List.mem_append, List.mem_singleton] at hev
        rcases hev with hev | rfl
        · obtain ⟨c₁, c₂, h₁, h₂, h₃⟩ := ih hev
          exact ⟨c₁, c₂, h₁, h₂, h₃.tail hs⟩
        · exact ⟨_, _, hr, hserves, .refl⟩

/-- What is served before a step in the middle of a run, by this step and after it. -/
theorem Run.since_serves {c₁ c₂ : Pool S ε α} {ev : Event Op Res} (h : Run S Start c c₁)
    (hev : Serves S Start c₁ c₂ ev) (h' : Run S Start c₂ c') :
    c.since c' = c.since c₁ ++ ev :: c₂.since c' := by
  obtain ⟨pre, hpre⟩ := Run.grows h
  obtain ⟨post, hpost⟩ := Run.grows h'
  rw [Pool.since, Pool.since, Pool.since, ← hpost, List.drop_left, hev.2, ← hpre, List.drop_left,
    List.append_assoc, List.append_assoc, List.drop_left]
  rfl

/-- A step in the middle of a run serves one of its requests. -/
theorem Run.mem_since {c₁ c₂ : Pool S ε α} {ev : Event Op Res} (h : Run S Start c c₁)
    (hev : Serves S Start c₁ c₂ ev) (h' : Run S Start c₂ c') : ev ∈ c.since c' := by
  rw [Run.since_serves h hev h']
  exact List.mem_append_right _ List.mem_cons_self

end

/-! ### Guarded runs -/

section guarded
variable {S : Service Op Res} {Start : Prog Op Res ε α → Prop} {c c' : Pool S ε α}
variable {ok : Pool S ε α → Event Op Res → Prop}

/-- A run that serves a request only where `ok` holds of the pool before it. -/
def GuardedRun (S : Service Op Res) (Start : Prog Op Res ε α → Prop)
    (ok : Pool S ε α → Event Op Res → Prop) : Pool S ε α → Pool S ε α → Prop :=
  Relation.ReflTransGen fun c c' => Step S Start c c' ∧ ∀ ev, Serves S Start c c' ev → ok c ev

theorem GuardedRun.run (h : GuardedRun S Start ok c c') : Run S Start c c' := by
  induction h with
  | refl => exact .refl
  | tail _ hs ih => exact ih.tail hs.1

/-- Every run is guarded by what always holds. -/
theorem Run.guarded (h : Run S Start c c') : GuardedRun S Start (fun _ _ => True) c c' := by
  induction h with
  | refl => exact .refl
  | tail _ hs ih => exact ih.tail ⟨hs, fun _ _ => trivial⟩

/-- What guarded requests keep holds along a guarded run. -/
theorem GuardedRun.keeps {K : Trace S → Prop}
    (hserve : ∀ {c₁ c₂ ev}, Run S Start c c₁ → Serves S Start c₁ c₂ ev → Run S Start c₂ c' →
      ok c₁ ev → K c₁.trace → K c₂.trace)
    (h : GuardedRun S Start ok c c') (hc : K c.trace) : K c'.trace := by
  have hall : ∀ {c₁}, GuardedRun S Start ok c c₁ → Run S Start c₁ c' → K c₁.trace := by
    intro c₁ h₁
    induction h₁ with
    | refl => exact fun _ => hc
    | @tail c₁ c₂ hr hs ih =>
        intro hrest
        have hK := ih (hrest.head hs.1)
        rcases hs.1 with ⟨p, hp⟩ | ⟨i, e, hi, he⟩
        · exact hK
        · exact hserve (GuardedRun.run hr) ⟨hs.1, rfl⟩ hrest (hs.2 _ ⟨hs.1, rfl⟩) hK
  exact hall h .refl

/-- A schedule whose requests are served only where `ok` holds. -/
def Pool.guarded [∀ s e, Decidable (S.Allowed s e)] (check : Pool S ε α → Event Op Res → Bool)
    (c : Pool S ε α) : List (Move S Start) → Bool
  | [] => true
  | m :: ms => ((c.move m).trace.events.drop c.trace.events.length).all (check c) &&
      (c.move m).guarded check ms

/-- Playing such a schedule is a guarded run. -/
theorem Pool.play_guarded [∀ s e, Decidable (S.Allowed s e)]
    {check : Pool S ε α → Event Op Res → Bool} (hcheck : ∀ c ev, check c ev → ok c ev)
    {ms : List (Move S Start)} (h : c.guarded check ms) : GuardedRun S Start ok c (c.play ms) := by
  induction ms generalizing c with
  | nil => exact .refl
  | cons m ms ih =>
      obtain ⟨hm, hms⟩ := Bool.and_eq_true_iff.mp h
      have hrest := ih hms
      rcases c.move_step m with heq | hstep
      · rw [heq] at hrest
        show GuardedRun S Start ok c ((c.move m).play ms)
        rw [heq]
        exact hrest
      · refine hrest.head ⟨hstep, fun ev hev => hcheck c ev ?_⟩
        rw [hev.2, List.drop_left, List.all_cons] at hm
        exact (Bool.and_eq_true_iff.mp hm).1

end guarded

end Interleaving

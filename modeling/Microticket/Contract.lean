import Microticket.Path
import Mathlib.Data.List.Induction

/-! # What a program sends, given what it was answered

`Sends i G Q p h` says of program number `i` with the history `h` (its own requests with their
answers, oldest first): whatever the answers are, every request that `p` sends satisfies `G` of the
history before it, and `p` ends in `Q` of its outcome and the whole history.  Nothing is said about
the service, so a contract holds under every interleaving; what the answers mean is added
afterwards, along a run (`Run.sends`). -/

namespace Interleaving

variable {Op : Type} {Res : Op → Type} {ε α β : Type}

/-- The requests of `p` satisfy `G` of the history, and it ends in `Q`. -/
def Sends (i : ℕ) (G : List (Event Op Res) → Op → Prop)
    (Q : Except ε α → List (Event Op Res) → Prop) :
    Prog Op Res ε α → List (Event Op Res) → Prop
  | .done a, h => Q (.ok a) h
  | .fail e, h => Q (.error e) h
  | .call op k, h => G h op ∧ ∀ r, Sends i G Q (k r) (h ++ [⟨i, op, r⟩])

/-- A value that is not the error that a failure was turned into. -/
theorem of_mapError_ok {ε' : Type} {f : ε → ε'} {r : Except ε α} {a : α}
    (h : r.mapError f = .ok a) : r = .ok a := by
  cases r with
  | ok a' => exact congrArg _ (Except.ok.inj h)
  | error e => cases h

/-- What is not there before each of its occurrences is there once. -/
theorem length_filter_le_one {P : α → Bool} {l : List α}
    (h : ∀ pre x post, l = pre ++ x :: post → P x → ∀ y ∈ pre, P y = false) :
    (l.filter P).length ≤ 1 := by
  induction l using List.reverseRecOn with
  | nil => simp
  | append_singleton l x ih =>
      rw [List.filter_append, List.filter_singleton]
      cases hx : P x with
      | false =>
          rw [cond_false, List.append_nil]
          refine ih fun pre y post heq => h pre y (post ++ [x]) ?_
          rw [heq, List.append_assoc]
          rfl
      | true =>
          have hnone : l.filter P = [] :=
            List.filter_eq_nil_iff.mpr fun y hy => by simp [h l x [] rfl hx y hy]
          rw [hnone]
          exact Nat.le_refl 1

theorem eq_of_length_le_one {l : List α} (h : l.length ≤ 1) {x y : α} (hx : x ∈ l) (hy : y ∈ l) :
    x = y := by
  rcases l with _ | ⟨z, _ | ⟨w, l⟩⟩
  · cases hx
  · exact (List.mem_singleton.mp hx).trans (List.mem_singleton.mp hy).symm
  · simp at h

namespace Sends

variable {i : ℕ} {G G' : List (Event Op Res) → Op → Prop} {p : Prog Op Res ε α}
variable {Q Q' : Except ε α → List (Event Op Res) → Prop} {h : List (Event Op Res)}

theorem mono (hp : Sends i G Q p h) (hG : ∀ h op, G h op → G' h op)
    (hQ : ∀ r h, Q r h → Q' r h) : Sends i G' Q' p h := by
  induction p generalizing h with
  | done a => exact hQ _ _ hp
  | fail e => exact hQ _ _ hp
  | call op k ih => exact ⟨hG _ _ hp.1, fun r => ih r (hp.2 r)⟩

theorem post (hp : Sends i G Q p h) (hQ : ∀ r h, Q r h → Q' r h) : Sends i G Q' p h :=
  hp.mono (fun _ _ hG => hG) hQ

/-- Two contracts of one program. -/
theorem and (hp : Sends i G Q p h) (hp' : Sends i G' Q' p h) :
    Sends i (fun h op => G h op ∧ G' h op) (fun r h => Q r h ∧ Q' r h) p h := by
  induction p generalizing h with
  | done a => exact ⟨hp, hp'⟩
  | fail e => exact ⟨hp, hp'⟩
  | call op k ih => exact ⟨⟨hp.1, hp'.1⟩, fun r => ih r (hp.2 r) (hp'.2 r)⟩

/-- Sequencing: the second program starts where the first one ends. -/
theorem bind {f : α → Prog Op Res ε β} {R : Except ε β → List (Event Op Res) → Prop}
    (hp : Sends i G Q p h) (hok : ∀ a h, Q (.ok a) h → Sends i G R (f a) h)
    (herr : ∀ e h, Q (.error e) h → R (.error e) h) : Sends i G R (p >>= f) h := by
  induction p generalizing h with
  | done a => exact hok a h hp
  | fail e => exact herr e h hp
  | call op k ih => exact ⟨hp.1, fun r => ih r (hp.2 r)⟩

/-- The history only grows. -/
theorem grown (hp : Sends i G Q p h) : Sends i G (fun r h' => Q r h' ∧ h ⊆ h') p h := by
  induction p generalizing h with
  | done a => exact ⟨hp, List.Subset.refl h⟩
  | fail e => exact ⟨hp, List.Subset.refl h⟩
  | call op k ih =>
      refine ⟨hp.1, fun r => (ih r (hp.2 r)).post fun _ _ hr => ⟨hr.1, ?_⟩⟩
      exact List.Subset.trans (List.subset_append_left _ _) hr.2

/-- Sequencing, where only the requests matter: what was answered before stays answered. -/
theorem next {f : α → Prog Op Res ε β} (hp : Sends i G (fun _ _ => True) p h)
    (hf : ∀ a h', h ⊆ h' → Sends i G (fun _ _ => True) (f a) h') :
    Sends i G (fun _ _ => True) (p >>= f) h :=
  hp.grown.bind (fun a h' hr => hf a h' hr.2) fun _ _ _ => trivial

theorem ensure {c : Prop} [Decidable c] {err : ε} {f : Unit → Prog Op Res ε β}
    {R : Except ε β → List (Event Op Res) → Prop} (hok : c → Sends i G R (f ()) h)
    (herr : ¬ c → R (.error err) h) : Sends i G R (Prog.ensure c err >>= f) h := by
  by_cases hc : c
  · rw [Prog.ensure_pos hc]
    exact hok hc
  · rw [Prog.ensure_neg hc]
    exact herr hc

theorem ofExcept {r : Except ε α} {f : α → Prog Op Res ε β}
    {R : Except ε β → List (Event Op Res) → Prop} (hok : ∀ a, r = .ok a → Sends i G R (f a) h)
    (herr : ∀ e, r = .error e → R (.error e) h) : Sends i G R (Prog.ofExcept r >>= f) h := by
  cases r with
  | ok a => exact hok a rfl
  | error e => exact herr e rfl

theorem ofOption {o : Option α} {err : ε} {f : α → Prog Op Res ε β}
    {R : Except ε β → List (Event Op Res) → Prop} (hok : ∀ a, o = some a → Sends i G R (f a) h)
    (herr : o = none → R (.error err) h) : Sends i G R (Prog.ofOption o err >>= f) h := by
  cases o with
  | some a => exact hok a rfl
  | none => exact herr rfl

/-- What the requests with `P` keep holds in the end. -/
theorem keeps {P : Op → Prop} {K : List (Event Op Res) → Prop} (hp : p.All P)
    (hG : ∀ {h op}, P op → K h → G h op) (hK : ∀ {h op r}, P op → K h → K (h ++ [⟨i, op, r⟩]))
    (h₀ : K h) : Sends i G (fun _ h => K h) p h := by
  induction p generalizing h with
  | done a => exact h₀
  | fail e => exact h₀
  | call op k ih => exact ⟨hG hp.1 h₀, fun r => ih r (hp.2 r) (hK hp.1 h₀)⟩

/-- A program whose requests are always allowed. -/
theorem of_all {P : Op → Prop} (hp : p.All P) (hG : ∀ {h op}, P op → G h op) :
    Sends i G (fun _ _ => True) p h :=
  keeps (K := fun _ => True) hp (fun hop _ => hG hop) (fun _ _ => trivial) trivial

/-- The same for a program that does not fail. -/
theorem keeps_total {P : Op → Prop} {K : List (Event Op Res) → Prop} (hp : p.Total P)
    (hG : ∀ {h op}, P op → K h → G h op) (hK : ∀ {h op r}, P op → K h → K (h ++ [⟨i, op, r⟩]))
    (h₀ : K h) : Sends i G (fun r h => K h ∧ ∃ a, r = .ok a) p h := by
  induction p generalizing h with
  | done a => exact ⟨h₀, a, rfl⟩
  | fail e => cases hp
  | call op k ih => exact ⟨hG hp.1 h₀, fun r => ih r (hp.2 r) (hK hp.1 h₀)⟩

/-- Along a path every request satisfies the contract. -/
theorem request {pre post : List (Event Op Res)} {ev : Event Op Res} {q : Prog Op Res ε α}
    (hp : Sends i G Q p h) (hpath : Path i p (pre ++ ev :: post) q) : G (h ++ pre) ev.op := by
  induction pre generalizing p h with
  | nil =>
      cases hpath with
      | call _ =>
          rw [List.append_nil]
          exact hp.1
  | cons x pre ih =>
      cases hpath with
      | call hpath =>
          rw [List.append_cons]
          exact ih (hp.2 _) hpath

/-- A request that the contract allows while there was none of its kind happens once. -/
theorem once {P : Op → Bool} {evs : List (Event Op Res)} {q : Prog Op Res ε α}
    (hp : Sends i G Q p []) (hG : ∀ h op, G h op → P op → ∀ ev ∈ h, P ev.op = false)
    (hpath : Path i p evs q) : (evs.filter fun ev => P ev.op).length ≤ 1 := by
  refine length_filter_le_one fun pre ev post heq hev => ?_
  subst heq
  exact hG _ _ (hp.request hpath) hev

/-- The request that a program waits for satisfies the contract. -/
theorem waits {evs : List (Event Op Res)} {op : Op} {k : Res op → Prog Op Res ε α}
    (hp : Sends i G Q p h) (hpath : Path i p evs (.call op k)) : G (h ++ evs) op := by
  generalize hd : Prog.call op k = d at hpath
  induction hpath generalizing h with
  | nil p =>
      subst hd
      rw [List.append_nil]
      exact hp.1
  | @call op' k' r evs q _ ih =>
      rw [List.append_cons]
      exact ih (hp.2 r) hd

theorem done {evs : List (Event Op Res)} {a : α} (hp : Sends i G Q p h)
    (hpath : Path i p evs (.done a)) : Q (.ok a) (h ++ evs) := by
  generalize hd : Prog.done a = d at hpath
  induction hpath generalizing h with
  | nil p =>
      subst hd
      rw [List.append_nil]
      exact hp
  | @call op k r evs q _ ih =>
      rw [List.append_cons]
      exact ih (hp.2 r) hd

theorem fail {evs : List (Event Op Res)} {e : ε} (hp : Sends i G Q p h)
    (hpath : Path i p evs (.fail e)) : Q (.error e) (h ++ evs) := by
  generalize hd : Prog.fail e = d at hpath
  induction hpath generalizing h with
  | nil p =>
      subst hd
      rw [List.append_nil]
      exact hp
  | @call op k r evs q _ ih =>
      rw [List.append_cons]
      exact ih (hp.2 r) hd

end Sends

/-! ### Runs -/

section
variable {S : Service Op Res} {Start : Prog Op Res ε α → Prop} {c c' : Pool S ε α} {i : ℕ}
variable {G : List (Event Op Res) → Op → Prop} {Q : Except ε α → List (Event Op Res) → Prop}

/-- Every program in progress began as one of `Start`, and its history is the path it took. -/
structure Pool.Started (Start : Prog Op Res ε α → Prop) (c : Pool S ε α) : Prop where
  callers : ∀ ev ∈ c.trace.events, ev.caller < c.threads.length
  path : ∀ {i p}, c.threads[i]? = some p →
    ∃ p₀, Start p₀ ∧ Path i p₀ (ownEvents i c.trace.events) p

theorem Pool.Started.init (s : S.State) :
    (Pool.init s : Pool S ε α).Started Start where
  callers := by simp [Pool.init]
  path := by simp [Pool.init]

theorem ownEvents_of_lt {evs : List (Event Op Res)} (h : ∀ ev ∈ evs, ev.caller ≠ i) :
    ownEvents i evs = [] := by
  rw [ownEvents, List.filter_eq_nil_iff]
  exact fun ev hev => by simpa using h ev hev

theorem ownEvents_concat (evs : List (Event Op Res)) (ev : Event Op Res) :
    ownEvents i (evs ++ [ev]) = ownEvents i evs ++ if ev.caller = i then [ev] else [] := by
  rw [ownEvents, List.filter_append, List.filter_singleton]
  by_cases hi : ev.caller = i <;> simp [ownEvents, hi]

theorem Pool.Started.step (hc : c.Started Start) (h : Step S Start c c') : c'.Started Start := by
  cases h with
  | start p₀ hp₀ =>
      refine ⟨fun ev hev => ?_, fun {i p} hp => ?_⟩
      · have := hc.callers ev hev
        simp only [List.length_append, List.length_singleton]
        omega
      · rcases Nat.lt_trichotomy i c.threads.length with hlt | rfl | hgt
        · rw [List.getElem?_append_left hlt] at hp
          exact hc.path hp
        · rw [List.getElem?_concat_length, Option.some.injEq] at hp
          subst hp
          refine ⟨p₀, hp₀, ?_⟩
          rw [ownEvents_of_lt fun ev hev => Nat.ne_of_lt (hc.callers ev hev)]
          exact .nil p₀
        · rw [List.getElem?_eq_none (by simp; omega)] at hp
          cases hp
  | serve j e hj he =>
      have hlt := (List.getElem?_eq_some_iff.mp hj).1
      refine ⟨fun ev hev => ?_, fun {i p} hp => ?_⟩
      · rw [List.length_set]
        rcases List.mem_append.mp hev with hev | hev
        · exact hc.callers ev hev
        · rw [List.mem_singleton.mp hev]
          exact hlt
      · rw [Trace.serve_events, ownEvents_concat]
        by_cases hij : j = i
        · subst hij
          rw [List.getElem?_set_self hlt, Option.some.injEq] at hp
          subst hp
          obtain ⟨p₀, hp₀, hpath⟩ := hc.path hj
          refine ⟨p₀, hp₀, ?_⟩
          rw [if_pos rfl]
          exact hpath.append (.single _)
        · rw [List.getElem?_set_ne hij] at hp
          obtain ⟨p₀, hp₀, hpath⟩ := hc.path hp
          refine ⟨p₀, hp₀, ?_⟩
          rw [if_neg hij, List.append_nil]
          exact hpath

theorem Run.started (h : Run S Start c c') (hc : c.Started Start) : c'.Started Start := by
  induction h with
  | refl => exact hc
  | tail _ hs ih => exact ih.step hs

/-- What every request under the contract keeps, if it satisfies `P`, holds along a run of programs
that keep the contract and whose requests all satisfy `P`. -/
theorem Run.contract_since {G : ℕ → List (Event Op Res) → Op → Prop} {P : Event Op Res → Prop}
    {K : Trace S → Prop} (hstart : ∀ p, Start p → ∀ i, Sends i (G i) (fun _ _ => True) p [])
    (hstep : ∀ {t i e op}, K t → S.Allowed t.state e → G i (ownEvents i t.events) op →
      P ⟨i, op, (S.serve t.state e op).1⟩ → K (t.serve i e op))
    (h : Run S Start c c') (hc : c.Started Start) (hP : ∀ ev ∈ c.since c', P ev)
    (h₀ : K c.trace) : K c'.trace := by
  refine Run.keeps (P := P) (fun {c₁ c₂ ev} hrun hserves hev hK => ?_) h hP h₀
  obtain ⟨e, k, hk, he, htrace, hres⟩ := hserves.trace
  obtain ⟨p₀, hp₀, hpath⟩ := (Run.started hrun hc).path hk
  rw [htrace]
  refine hstep hK he ((hstart p₀ hp₀ ev.caller).waits hpath) ?_
  rw [← hres]
  exact hev

/-- What every request under the contract keeps holds along a run of programs that keep it. -/
theorem Run.contract {G : ℕ → List (Event Op Res) → Op → Prop} {K : Trace S → Prop} {s : S.State}
    (hstart : ∀ p, Start p → ∀ i, Sends i (G i) (fun _ _ => True) p [])
    (hstep : ∀ {t i e op}, K t → S.Allowed t.state e → G i (ownEvents i t.events) op →
      K (t.serve i e op))
    (h : Run S Start (Pool.init s) c) (h₀ : K ⟨[], s⟩) : K c.trace :=
  Run.contract_since (P := fun _ => True) hstart (fun hK he hG _ => hstep hK he hG) h (.init s)
    (fun _ _ => trivial) h₀

/-- What every request under the contract keeps where it is guarded holds along a guarded run. -/
theorem GuardedRun.contract {G : ℕ → List (Event Op Res) → Op → Prop} {K : Trace S → Prop}
    {ok : Pool S ε α → Event Op Res → Prop}
    (hstart : ∀ p, Start p → ∀ i, Sends i (G i) (fun _ _ => True) p [])
    (hstep : ∀ {c₁ i e op}, Run S Start c c₁ → K c₁.trace → S.Allowed c₁.trace.state e →
      G i (ownEvents i c₁.trace.events) op → ok c₁ ⟨i, op, (S.serve c₁.trace.state e op).1⟩ →
      K (c₁.trace.serve i e op))
    (h : GuardedRun S Start ok c c') (hc : c.Started Start) (h₀ : K c.trace) : K c'.trace := by
  refine GuardedRun.keeps (K := K) (fun {c₁ c₂ ev} hrun hserves _ hok hK => ?_) h h₀
  obtain ⟨e, k, hk, he, htrace, hres⟩ := hserves.trace
  obtain ⟨p₀, hp₀, hpath⟩ := (Run.started hrun hc).path hk
  rw [htrace]
  refine hstep hrun hK he ((hstart p₀ hp₀ ev.caller).waits hpath) ?_
  rw [← hres]
  exact hok

/-- What can be won only while it is not taken, and stays taken, is won once. -/
theorem Run.won_once {T : S.State → Prop} {W : Event Op Res → Bool} {s : S.State}
    (hstays : ∀ {s e op}, T s → T (S.serve s e op).2)
    (hwins : ∀ {s e op i}, W ⟨i, op, (S.serve s e op).1⟩ →
      ¬ T s ∧ T (S.serve s e op).2)
    (h : Run S Start (Pool.init s) c) : (c.trace.events.filter W).length ≤ 1 := by
  have hinv : (c.trace.events.filter W).length ≤ 1 ∧
      (c.trace.events.filter W ≠ [] → T c.trace.state) := by
    refine Run.keeps (P := fun _ => True) (K := fun t => (t.events.filter W).length ≤ 1 ∧
      (t.events.filter W ≠ [] → T t.state)) ?_ h (fun _ _ => trivial)
      ⟨Nat.zero_le 1, fun hne => absurd rfl hne⟩
    rintro c₁ c₂ ev - hserves - ⟨hle, htaken⟩
    obtain ⟨e, k, -, -, htrace, hres⟩ := hserves.trace
    rw [htrace, Trace.serve_events, List.filter_append, List.filter_singleton]
    cases hev : W ⟨ev.caller, ev.op, (S.serve c₁.trace.state e ev.op).1⟩ with
    | false =>
        rw [cond_false, List.append_nil]
        exact ⟨hle, fun hne => hstays (htaken hne)⟩
    | true =>
        obtain ⟨hnot, hnow⟩ := hwins hev
        have hnone : c₁.trace.events.filter W = [] := by
          by_contra hne
          exact hnot (htaken hne)
        rw [hnone]
        exact ⟨Nat.le_refl 1, fun _ => hnow⟩
  exact hinv.1

/-- Program `i` runs `p₀`: it has followed a path of `p₀` so far. -/
def Pool.Plays (c : Pool S ε α) (i : ℕ) (p₀ : Prog Op Res ε α) : Prop :=
  ∃ p, c.threads[i]? = some p ∧ Path i p₀ (ownEvents i c.trace.events) p

/-- Every request was sent by a program of the pool, and keeps the contracts of that program. -/
theorem Pool.Started.request {pre post : List (Event Op Res)} {ev : Event Op Res}
    (hc : c.Started Start) (heq : c.trace.events = pre ++ ev :: post) :
    ∃ p₀, Start p₀ ∧ c.Plays ev.caller p₀ ∧
      ∀ {G Q}, Sends ev.caller G Q p₀ [] → G (ownEvents ev.caller pre) ev.op := by
  have hlt : ev.caller < c.threads.length :=
    hc.callers ev (heq ▸ List.mem_append_right _ List.mem_cons_self)
  have hthread : c.threads[ev.caller]? = some c.threads[ev.caller] := List.getElem?_eq_getElem hlt
  obtain ⟨p₀, hp₀, hpath⟩ := hc.path hthread
  refine ⟨p₀, hp₀, ⟨_, hthread, hpath⟩, fun hsends => ?_⟩
  have hown : ownEvents ev.caller c.trace.events =
      ownEvents ev.caller pre ++ ev :: ownEvents ev.caller post := by
    rw [heq, ownEvents, List.filter_append, List.filter_cons, if_pos (decide_eq_true rfl)]
    rfl
  rw [hown] at hpath
  exact hsends.request hpath

/-- It goes on doing so. -/
theorem Pool.Plays.run {p₀ : Prog Op Res ε α} (hc : c.Plays i p₀) (h : Run S Start c c') :
    c'.Plays i p₀ := by
  obtain ⟨p, hp, hpath⟩ := hc
  obtain ⟨q, hq, hmore⟩ := Run.path h hp
  obtain ⟨more, heq⟩ := Run.grows h
  rw [Pool.since, ← heq, List.drop_left] at hmore
  refine ⟨q, hq, ?_⟩
  rw [← heq, ownEvents, List.filter_append]
  exact hpath.append hmore

/-- A program that is done has kept its contract. -/
theorem Pool.Plays.done {p₀ : Prog Op Res ε α} {a : α} (hc : c.Plays i p₀)
    (hdone : c.threads[i]? = some (.done a)) (hp₀ : Sends i G Q p₀ []) :
    Q (.ok a) (ownEvents i c.trace.events) := by
  obtain ⟨p, hp, hpath⟩ := hc
  rw [hdone, Option.some.injEq] at hp
  subst hp
  exact hp₀.done hpath

theorem Pool.Plays.fail {p₀ : Prog Op Res ε α} {e : ε} (hc : c.Plays i p₀)
    (hfail : c.threads[i]? = some (.fail e)) (hp₀ : Sends i G Q p₀ []) :
    Q (.error e) (ownEvents i c.trace.events) := by
  obtain ⟨p, hp, hpath⟩ := hc
  rw [hfail, Option.some.injEq] at hp
  subst hp
  exact hp₀.fail hpath

/-- A program that was started runs. -/
theorem Run.plays {p₀ : Prog Op Res ε α} (h : Run S Start c c') (hi : c.threads[i]? = some p₀)
    (hc : ∀ ev ∈ c.trace.events, ev.caller ≠ i) : c'.Plays i p₀ := by
  refine Pool.Plays.run ⟨p₀, hi, ?_⟩ h
  rw [ownEvents_of_lt hc]
  exact .nil p₀

/-- A call that is made runs as the next program. -/
theorem Pool.start_plays {p₀ : Prog Op Res ε α} {hp₀ : Start p₀} {c : Pool S ε α}
    [∀ s e, Decidable (S.Allowed s e)] (hi : c.threads.length = i)
    (hc : ∀ ev ∈ c.trace.events, ev.caller ≠ i)
    (h : Run S Start (c.move (.start p₀ hp₀ : Move S Start)) c') : c'.Plays i p₀ := by
  refine Run.plays h ?_ hc
  show (c.threads ++ [p₀])[i]? = some p₀
  rw [← hi, List.getElem?_concat_length]

/-- Calls that are made one after the other become the next programs. -/
theorem Pool.calls_play {β : Type} {prog : β → Prog Op Res ε α} (hprog : ∀ b, Start (prog b))
    [∀ s e, Decidable (S.Allowed s e)] (bs : List β) (c : Pool S ε α) :
    c.play (bs.map fun b => (.start (prog b) (hprog b) : Move S Start)) =
      ⟨c.trace, c.threads ++ bs.map prog⟩ := by
  induction bs generalizing c with
  | nil => exact congrArg (Pool.mk c.trace) (List.append_nil _).symm
  | cons b bs ih =>
      refine (ih _).trans ?_
      show Pool.mk c.trace ((c.threads ++ [prog b]) ++ bs.map prog) = _
      rw [List.append_assoc]
      rfl

/-- A schedule that begins with all its calls runs them in their order. -/
theorem Pool.calls_plays {β : Type} {prog : β → Prog Op Res ε α} {hprog : ∀ b, Start (prog b)}
    [∀ s e, Decidable (S.Allowed s e)] {bs : List β} {ms : List (Move S Start)} {b : β} {s : S.State}
    (hb : bs[i]? = some b) :
    ((Pool.init s).play (bs.map (fun b => (.start (prog b) (hprog b) : Move S Start)) ++ ms)).Plays i
      (prog b) := by
  rw [Pool.play_append, Pool.calls_play]
  refine Run.plays (Pool.play_run _ _) ?_ fun ev hev => by cases hev
  show (bs.map prog)[i]? = _
  rw [List.getElem?_map, hb]
  rfl

/-- The requests of a program before and after one of them. -/
theorem Serves.own_split {c₁ c₂ : Pool S ε α} {ev : Event Op Res} (h : Serves S Start c₁ c₂ ev)
    (hrun : Run S Start c₂ c) : ∃ rest, ownEvents ev.caller c.trace.events =
      ownEvents ev.caller c₁.trace.events ++ ev :: rest := by
  obtain ⟨more, hmore⟩ := Run.grows hrun
  refine ⟨ownEvents ev.caller more, ?_⟩
  rw [← hmore, h.2, ownEvents, List.filter_append, List.filter_append,
    List.filter_singleton, decide_eq_true rfl, cond_true, List.append_assoc]
  rfl

/-- Every request of a program that keeps a contract satisfies it. -/
theorem Serves.permitted {c₁ c₂ : Pool S ε α} {ev : Event Op Res} {p₀ : Prog Op Res ε α}
    (h : Serves S Start c₁ c₂ ev) (hrun : Run S Start c₂ c) (hc : c.Plays ev.caller p₀)
    (hp₀ : Sends ev.caller G Q p₀ []) :
    G (ownEvents ev.caller c₁.trace.events) ev.op := by
  obtain ⟨p, -, hpath⟩ := hc
  obtain ⟨rest, hrest⟩ := h.own_split hrun
  rw [hrest] at hpath
  exact hp₀.request hpath

/-- The same along a guarded run of which it is known later what every program runs. -/
theorem GuardedRun.plays_later {c'' : Pool S ε α} {prog : ℕ → Prog Op Res ε α}
    {G : ℕ → List (Event Op Res) → Op → Prop} {K : Trace S → Prop}
    {ok : Pool S ε α → Event Op Res → Prop}
    (hG : ∀ i, Sends i (G i) (fun _ _ => True) (prog i) [])
    (hstep : ∀ {c₁ i e op}, Run S Start c c₁ → (c₁.trace.serve i e op).events <+: c''.trace.events →
      K c₁.trace → S.Allowed c₁.trace.state e → G i (ownEvents i c₁.trace.events) op →
      ok c₁ ⟨i, op, (S.serve c₁.trace.state e op).1⟩ → K (c₁.trace.serve i e op))
    (h : GuardedRun S Start ok c c') (hlater : Run S Start c' c'') (hc : c.Started Start)
    (hplays : ∀ i, i < c''.threads.length → c''.Plays i (prog i)) (h₀ : K c.trace) :
    K c'.trace := by
  refine GuardedRun.keeps (K := K) (fun {c₁ c₂ ev} hbefore hserves hafter hok hK => ?_) h h₀
  have hrest := hafter.trans hlater
  have hcaller : ev.caller < c''.threads.length := by
    refine (Run.started (h.run.trans hlater) hc).callers ev ((Run.grows hrest).subset ?_)
    rw [hserves.2]
    exact List.mem_append_right _ (List.mem_singleton_self _)
  have hpermitted := hserves.permitted hrest (hplays _ hcaller) (hG ev.caller)
  obtain ⟨e, k, -, hallowed, htrace, hres⟩ := hserves.trace
  have hgrows := Run.grows hrest
  rw [htrace] at hgrows ⊢
  refine hstep hbefore hgrows hK hallowed hpermitted ?_
  rw [← hres]
  exact hok

/-- The same along a guarded run of which it is known what every program runs. -/
theorem GuardedRun.plays {prog : ℕ → Prog Op Res ε α} {G : ℕ → List (Event Op Res) → Op → Prop}
    {K : Trace S → Prop} {ok : Pool S ε α → Event Op Res → Prop}
    (hG : ∀ i, Sends i (G i) (fun _ _ => True) (prog i) [])
    (hstep : ∀ {c₁ i e op}, Run S Start c c₁ → (c₁.trace.serve i e op).events <+: c'.trace.events →
      K c₁.trace → G i (ownEvents i c₁.trace.events) op →
      ok c₁ ⟨i, op, (S.serve c₁.trace.state e op).1⟩ → K (c₁.trace.serve i e op))
    (h : GuardedRun S Start ok c c') (hc : c.Started Start)
    (hplays : ∀ i, i < c'.threads.length → c'.Plays i (prog i)) (h₀ : K c.trace) : K c'.trace :=
  GuardedRun.plays_later hG (fun hr hgrows hK _ => hstep hr hgrows hK) h .refl hc hplays h₀

/-- A request that is served satisfies the contract of the program that sent it. -/
theorem Serves.sends {ev : Event Op Res} {p₀ : Prog Op Res ε α} (h : Serves S Start c c' ev)
    (hc : ∀ {p}, c.threads[ev.caller]? = some p →
      Path ev.caller p₀ (ownEvents ev.caller c.trace.events) p)
    (hp₀ : Sends ev.caller G Q p₀ []) : G (ownEvents ev.caller c.trace.events) ev.op := by
  obtain ⟨e, k, hk, -, -, hres⟩ := h.trace
  have hpath : Path ev.caller p₀ (ownEvents ev.caller c.trace.events ++ ev :: []) (k ev.res) :=
    (hc hk).append (.single ev.res)
  exact hp₀.request hpath

end

end Interleaving

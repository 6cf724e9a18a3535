import Microticket.CodeMutations
import Microticket.History

/-! # What holds of the codes along every run

`CodeDb.codeAt` is the row of a code, in whichever table, and `CodeOp.leaves` what a request leaves
there.  `codeDiscipline` is the argument for the four mutations on reliable rows.

* Invariant (`CodeInvariant`): every row carries the number of its own code, at most one program
  redeems a code, and a code whose attempts were counted undisturbed was compared at most
  `LOGIN_CODE_MAX_ATTEMPTS` times.
* Rely (`CodeRely`): a row changes only by requests that write it.
* Precondition (`CodeOp.Follows`): an attempt is counted on the row that was read, a code is
  compared after it was counted and stored tokens follow a redemption.

`countedUndisturbed` and `writtenUndisturbed` are the two conditions on the history: between the
read of a row by a verifying call and its next count (its next write) of the row, no other call has
counted an attempt (has written the row). -/

namespace Microticket

open Interleaving Tables

/-- A request on the tables of codes that was served. -/
abbrev CodeEvent : Type := Event CodeOp CodeOp.Res

/-! ### Rows of codes -/

/-- What is stored of a code. -/
structure CodeRow where
  code : CodeId
  codeHash : String
  attempts : ℕ
  expiresAt : ℕ
  deriving DecidableEq

def CodeRow.tried (row : CodeRow) : CodeRow := { row with attempts := row.attempts + 1 }

/-- The code in a row of `login_code`. -/
def LoginRow.code : LoginRow → Option CodeRow
  | .complete record => some ⟨record.code, record.codeHash, record.attempts, record.expiresAt⟩
  | .attemptsOnly _ => none

/-- The code in a row of `ephemeral_state`. -/
def EphemeralState.codeRow (state : EphemeralState) : Option CodeRow :=
  if state.kind = submitCodeStateKind then
    match state.payload with
    | .submitCode payload => some ⟨state.code, payload.codeHash, payload.attempts, state.expiresAt⟩
    | _ => none
  else none

namespace CodeDb

/-- The code in the row `key`. -/
def codeAt (d : CodeDb) : CodeKey → Option CodeRow
  | .login email => (d.loginCodes.lookup email).bind LoginRow.code
  | .submit id => (d.ephemeral.lookup id).bind EphemeralState.codeRow

end CodeDb

/-! ### Kinds of requests -/

namespace CodeOp

def reads (key : CodeKey) : CodeOp → Bool
  | .getLoginCode email => key = .login email
  | .getEphemeralState id => key = .submit id
  | _ => false

def writes (key : CodeKey) : CodeOp → Bool
  | .putLoginCode email .. | .deleteLoginCode email | .incrementLoginCodeAttempts email _ =>
      key = .login email
  | .putEphemeralState id .. | .deleteEphemeralState id => key = .submit id
  | _ => false

/-- The request counts an attempt on the row `key`. -/
def countsAt (key : CodeKey) : CodeOp → Bool
  | .incrementLoginCodeAttempts email _ => key = .login email
  | .putEphemeralState id kind _ _ (some _) => key = .submit id ∧ kind = submitCodeStateKind
  | _ => false

/-- The request counts an attempt on the code `code`. -/
def counts (code : CodeId) : CodeOp → Bool
  | .incrementLoginCodeAttempts email code' => code' = code ∧ code.key = .login email
  | .putEphemeralState id kind _ _ (some code') =>
      code' = code ∧ code.key = .submit id ∧ kind = submitCodeStateKind
  | _ => false

def deletes (key : CodeKey) : CodeOp → Bool
  | .deleteLoginCode email => key = .login email
  | .deleteEphemeralState id => key = .submit id
  | _ => false

/-- The request writes the row `key` for a call that verifies. -/
def verifies (key : CodeKey) (op : CodeOp) : Bool := op.countsAt key || op.deletes key

def compares (code : CodeId) : CodeOp → Bool
  | .compareHash code' _ _ => code' = code
  | _ => false

/-- The request stores a token for the code `code`. -/
def issues (code : CodeId) : CodeOp → Bool
  | .createUserToken _ _ _ code' => code' = code
  | .putEphemeralState _ kind _ _ (some code') => code' = code ∧ kind = submitTokenStateKind
  | _ => false

/-- What a request on a row leaves there. -/
def leaves (e : CodeEnv) (old : Option CodeRow) : CodeOp → Option CodeRow
  | .putLoginCode email codeHash expiresAt _ =>
      some ⟨⟨.login email, e.number⟩, codeHash, 0, expiresAt⟩
  | .incrementLoginCodeAttempts .. => old.map CodeRow.tried
  | .putEphemeralState id kind payload expiresAt code =>
      EphemeralState.codeRow { id, kind, payload, expiresAt,
                               code := code.getD ⟨.submit id, e.number⟩ }
  | .deleteLoginCode _ | .deleteEphemeralState _ => none
  | _ => old

theorem counts_countsAt {op : CodeOp} {code : CodeId} (h : op.counts code) :
    op.countsAt code.key := by
  cases op with
  | incrementLoginCodeAttempts email code' =>
      simp only [counts, decide_eq_true_eq] at h
      exact decide_eq_true h.2
  | putEphemeralState id kind payload expiresAt code' =>
      cases code' with
      | none => cases h
      | some code' =>
          simp only [counts, decide_eq_true_eq] at h
          exact decide_eq_true h.2
  | _ => cases h

theorem countsAt_writes {op : CodeOp} {key : CodeKey} (h : op.countsAt key) : op.writes key := by
  cases op with
  | incrementLoginCodeAttempts email code' => exact h
  | putEphemeralState id kind payload expiresAt code' =>
      cases code' with
      | none => cases h
      | some code' =>
          simp only [countsAt, decide_eq_true_eq] at h
          exact decide_eq_true h.1
  | _ => cases h

theorem deletes_writes {op : CodeOp} {key : CodeKey} (h : op.deletes key) : op.writes key := by
  cases op with
  | deleteLoginCode email => exact h
  | deleteEphemeralState id => exact h
  | _ => cases h

theorem leaves_of_deletes {op : CodeOp} {key : CodeKey} (h : op.deletes key) {e : CodeEnv}
    {old : Option CodeRow} : op.leaves e old = none := by
  cases op with
  | deleteLoginCode email => rfl
  | deleteEphemeralState id => rfl
  | _ => cases h

theorem writes_row {op : CodeOp} {key : CodeKey} (h : op.writes key) : op.row = some key := by
  cases op <;> first | exact congrArg some (of_decide_eq_true h).symm | cases h

end CodeOp

/-- Attempts are counted undisturbed. -/
abbrev countedUndisturbed (evs : List CodeEvent) : Prop :=
  Undisturbed CodeOp.reads CodeOp.countsAt CodeOp.countsAt evs

/-- Rows are written undisturbed. -/
abbrev writtenUndisturbed (evs : List CodeEvent) : Prop :=
  Undisturbed CodeOp.reads CodeOp.verifies CodeOp.writes evs

/-! ### What a request does to a row -/

section
variable {readOnly reliable : Bool} {s : CodeStore} {e : CodeEnv} {op : CodeOp} {key : CodeKey}

/-- A write changes the row it names, to what it leaves there. -/
theorem CodeDb.codeAt_change {d d' : CodeDb} (h : d.change e op = some d') (key : CodeKey) :
    d'.codeAt key = if op.writes key then op.leaves e (d.codeAt key) else d.codeAt key := by
  have hlogin : ∀ (rows : Table String LoginRow) (email : String) (row : LoginRow) (key : CodeKey),
      CodeDb.codeAt { d with loginCodes := rows.insert email row } key =
        if key = .login email then row.code
        else CodeDb.codeAt { d with loginCodes := rows } key := by
    intro rows email row key
    cases key with
    | login email' =>
        simp only [codeAt, Table.lookup_insert_if, CodeKey.login.injEq]
        split <;> rfl
    | submit id => rfl
  cases op with
  | putLoginCode email codeHash expiresAt now =>
      obtain rfl := Option.some.inj h
      rw [putLoginCode, hlogin]
      simp only [CodeOp.writes, decide_eq_true_eq]
      rfl
  | deleteLoginCode email =>
      obtain rfl := Option.some.inj h
      cases key with
      | login email' =>
          simp only [codeAt, deleteLoginCode, Table.lookup_erase_if, CodeOp.writes,
            CodeKey.login.injEq, decide_eq_true_eq]
          split <;> rfl
      | submit id => rfl
  | incrementLoginCodeAttempts email code =>
      obtain rfl := Option.some.inj h
      rw [incrementLoginCodeAttempts, hlogin]
      simp only [CodeOp.writes, decide_eq_true_eq]
      split
      · rename_i hkey
        subst hkey
        simp only [codeAt, CodeOp.leaves]
        cases d.loginCodes.lookup email with
        | none => rfl
        | some row => cases row <;> rfl
      · rfl
  | createUserToken tokenHash userId expiresAt code =>
      obtain rfl := Option.some.inj h
      cases key <;> rfl
  | putEphemeralState id kind payload expiresAt code =>
      obtain rfl := Option.some.inj h
      cases key with
      | login email => rfl
      | submit id' =>
          simp only [codeAt, putEphemeralState, Table.lookup_insert_if, CodeOp.writes,
            CodeKey.submit.injEq, decide_eq_true_eq]
          split <;> rfl
  | deleteEphemeralState id =>
      obtain rfl := Option.some.inj h
      cases key with
      | login email => rfl
      | submit id' =>
          simp only [codeAt, deleteEphemeralState, Table.lookup_erase_if, CodeOp.writes,
            CodeKey.submit.injEq, decide_eq_true_eq]
          split <;> rfl
  | _ => cases h

theorem CodeEnv.on_number (e : CodeEnv) (reliable : Bool) (op : CodeOp) :
    (e.on reliable op).number = e.number := by
  unfold CodeEnv.on
  split <;> rfl

theorem CodeOp.leaves_on (old : Option CodeRow) (reliable : Bool) :
    op.leaves (e.on reliable op) old = op.leaves e old := by
  have hnumber := e.on_number reliable op
  cases op <;> first | rfl | simp only [leaves, hnumber]

theorem CodeStore.write_state (readOnly : Bool) (d : Option CodeDb) :
    (s.write e readOnly d).2 = s ∨ readOnly = false ∧ ∃ d', d = some d' ∧
      (s.write e readOnly d).2 = { db := s.db.write d', minted := e.number :: s.minted } := by
  cases d with
  | none => exact .inl rfl
  | some d =>
      cases readOnly with
      | true => exact .inl rfl
      | false =>
          unfold CodeStore.write
          cases e.fault with
          | none => exact .inr ⟨rfl, d, rfl, rfl⟩
          | unacknowledged => exact .inr ⟨rfl, d, rfl, rfl⟩
          | lost => exact .inl rfl
          | cancelled => exact .inl rfl

/-- A request leaves the state as it is or commits its `change`. -/
theorem CodeStore.serve_state (readOnly reliable : Bool) (s : CodeStore) (e : CodeEnv)
    (op : CodeOp) : (s.serve e readOnly reliable op).2 = s ∨ readOnly = false ∧
      ∃ d, s.db.now.change (e.on reliable op) op = some d ∧
        (s.serve e readOnly reliable op).2 =
          { db := s.db.write d, minted := (e.on reliable op).number :: s.minted } := by
  cases op <;> first | exact .inl rfl | exact CodeStore.write_state _ _

/-- On reliable rows a write is committed. -/
theorem CodeStore.serve_write (s : CodeStore) (e : CodeEnv) (h : op.writes key) :
    ∃ d, s.db.now.change (e.on true op) op = some d ∧ (s.serve e false true op).2 =
      { db := s.db.write d, minted := (e.on true op).number :: s.minted } := by
  have hfault : (e.on true op).fault = .none := by
    rw [CodeEnv.on, CodeOp.writes_row h]
    rfl
  cases op <;> first
    | cases h
    | exact ⟨_, rfl, by simp only [serve, write, hfault, CodeDb.change]; rfl⟩

/-- The rows of codes after a request on reliable rows. -/
theorem CodeStore.codeAt_serve (readOnly : Bool) (s : CodeStore) (e : CodeEnv) (op : CodeOp)
    (key : CodeKey) : (s.serve e readOnly true op).2.db.now.codeAt key =
      if op.writes key ∧ readOnly = false then op.leaves e (s.db.now.codeAt key)
      else s.db.now.codeAt key := by
  rcases CodeStore.serve_state readOnly true s e op with heq | ⟨rfl, d, hd, heq⟩
  · rw [heq]
    split
    · rename_i h
      obtain ⟨hw, rfl⟩ := h
      obtain ⟨d, hd, hstate⟩ := CodeStore.serve_write s e hw
      have hsame : (s.db.write d).now = s.db.now :=
        congrArg (fun s => (CodeStore.db s).now) (hstate.symm.trans heq)
      have hrow := CodeDb.codeAt_change hd key
      rw [if_pos hw, CodeOp.leaves_on] at hrow
      rw [← hrow, ← hsame]
      rfl
    · rfl
  · rw [heq]
    have hrow := CodeDb.codeAt_change hd key
    rw [CodeOp.leaves_on] at hrow
    simp only [Replica.write_now, hrow, and_true]

theorem CodeStore.minted_serve (readOnly reliable : Bool) (s : CodeStore) (e : CodeEnv)
    (op : CodeOp) {n : ℕ} (h : n ∈ s.minted) : n ∈ (s.serve e readOnly reliable op).2.minted := by
  rcases CodeStore.serve_state readOnly reliable s e op with heq | ⟨-, d, -, heq⟩
  · rw [heq]
    exact h
  · rw [heq]
    exact List.mem_cons_of_mem _ h

end

/-! ### The invariant -/

/-- How often an attempt was counted on a code. -/
def countsOf (code : CodeId) (evs : List CodeEvent) : ℕ := evs.countP fun ev => ev.op.counts code

/-- A guess that was compared with the code and was right. -/
def matched (code : CodeId) : CodeEvent → Bool
  | ⟨_, .compareHash code' _ _, same⟩ => code' = code ∧ same = true
  | _ => false

/-- Program `i` deleted the row of a code after a right guess. -/
def Redeemed (i : ℕ) (code : CodeId) (evs : List CodeEvent) : Prop :=
  ∃ x y, [x, y].Sublist evs ∧ x.caller = i ∧ y.caller = i ∧ matched code x ∧ y.op.deletes code.key

/-- The programs that sent a request with `p`, in the order of the requests. -/
def callersOf (p : CodeOp → Bool) (evs : List CodeEvent) : List ℕ :=
  (evs.filter fun ev => p ev.op).map Event.caller

section
variable {readOnly : Bool}

/-- The code in the row `key`. -/
def rowAt (t : Trace (codeService readOnly true)) (key : CodeKey) : Option CodeRow :=
  (CodeStore.db t.state).now.codeAt key

/-- The numbers that were given to codes. -/
def mintedIn (t : Trace (codeService readOnly true)) : List ℕ := CodeStore.minted t.state

/-- The invariant. -/
structure CodeInvariant (t : Trace (codeService readOnly true)) : Prop where
  home : ∀ {key row}, rowAt t key = some row → row.code.key = key ∧ row.code.number ∈ mintedIn t
  disabled : readOnly = true → mintedIn t = []
  counted : ∀ {ev code}, ev ∈ t.events → ev.op.counts code → code.number ∈ mintedIn t
  guessed : ∀ {ev code}, ev ∈ t.events → ev.op.compares code →
    ∃ ev' ∈ t.events, ev'.caller = ev.caller ∧ ev'.op.counts code
  guessers : ∀ code, (callersOf (CodeOp.compares code) t.events).Nodup
  limited : countedUndisturbed t.events → ∀ code, countsOf code t.events ≤ loginCodeMaxAttempts
  attempts : countedUndisturbed t.events → ∀ {key row}, rowAt t key = some row →
    countsOf row.code t.events ≤ row.attempts
  once : writtenUndisturbed t.events → ∀ {i j code}, Redeemed i code t.events →
    Redeemed j code t.events → i = j
  gone : writtenUndisturbed t.events → ∀ {i row}, rowAt t row.code.key = some row →
    ¬ Redeemed i row.code t.events
  issued : ∀ {ev code}, ev ∈ t.events → ev.op.issues code → Redeemed ev.caller code t.events
  issuers : ∀ code, (callersOf (CodeOp.issues code) t.events).Nodup

/-- What a program may rely on while it waits: rows change only by requests that write them. -/
structure CodeRely (i : ℕ) (t t' : Trace (codeService readOnly true)) : Prop where
  grows : ∃ more, t'.events = t.events ++ more ∧ (∀ ev ∈ more, ev.caller ≠ i) ∧
    ∀ key, (∀ ev ∈ more, ¬ ev.op.writes key) → rowAt t' key = rowAt t key
  minted : ∀ {n}, n ∈ mintedIn t → n ∈ mintedIn t'

/-- Program `i` read `row`, below the limit, when its counted attempts were all in the row, and has
not counted its own yet. -/
def Counting (i : ℕ) (row : CodeRow) (t : Trace (codeService readOnly true)) : Prop :=
  row.attempts < loginCodeMaxAttempts ∧ ∃ pre r post, t.events = pre ++ r :: post ∧ r.caller = i ∧
    r.op.reads row.code.key ∧ (countedUndisturbed pre → countsOf row.code pre ≤ row.attempts) ∧
    ∀ ev ∈ post, ev.caller = i → ¬ ev.op.countsAt row.code.key

/-- The row is as program `i` has read it and written it since, unless another program wrote it. -/
def Current (i : ℕ) (row : CodeRow) (t : Trace (codeService readOnly true)) : Prop :=
  ∃ pre r post, t.events = pre ++ r :: post ∧ r.caller = i ∧ r.op.reads row.code.key ∧
    ((∀ w ∈ post, w.op.writes row.code.key → w.caller = i) → rowAt t row.code.key = some row)

/-- What a program ensures of its requests. -/
structure CodeOp.Follows (i : ℕ) (t : Trace (codeService readOnly true)) (op : CodeOp) : Prop where
  home : ∀ {key}, op.countsAt key → ∃ code, op.counts code ∧ code.key = key
  counts : ∀ {code}, op.counts code → code.number ∈ mintedIn t ∧ ∃ row : CodeRow, row.code = code ∧
    Counting i row t ∧ Current i row t ∧ ∀ e, op.leaves e (some row) = some row.tried
  compares : ∀ {code}, op.compares code →
    (∃ ev ∈ t.events, ev.caller = i ∧ ev.op.counts code) ∧
      ∀ ev ∈ t.events, ev.caller = i → ¬ ev.op.compares code
  deletes : ∀ {code x}, op.deletes code.key → x ∈ t.events → x.caller = i → matched code x →
    ∃ row : CodeRow, row.code = code ∧ Current i row t
  issues : ∀ {code}, op.issues code → Redeemed i code t.events ∧
    ∀ ev ∈ t.events, ev.caller = i → ¬ ev.op.issues code

/-! ### One request -/

theorem CodeOp.leaves_of_writes {op : CodeOp} {key : CodeKey} (h : op.writes key) (e : CodeEnv)
    (old : Option CodeRow) :
    op.countsAt key ∨ ∀ row, op.leaves e old = some row →
      row.code = ⟨key, e.number⟩ := by
  have hrow : ∀ {state : EphemeralState} {row}, state.codeRow = some row →
      row.code = state.code ∧ state.kind = submitCodeStateKind := by
    intro state row hstate
    unfold EphemeralState.codeRow at hstate
    split at hstate
    · rename_i hkind
      cases hp : state.payload <;> rw [hp] at hstate <;> cases hstate
      exact ⟨rfl, hkind⟩
    · cases hstate
  cases op with
  | putLoginCode email codeHash expiresAt now =>
      refine .inr fun row hleaves => ?_
      obtain rfl := of_decide_eq_true h
      obtain rfl := Option.some.inj hleaves
      rfl
  | incrementLoginCodeAttempts email code => exact .inl h
  | deleteLoginCode email => exact .inr fun row hleaves => by cases hleaves
  | deleteEphemeralState id => exact .inr fun row hleaves => by cases hleaves
  | putEphemeralState id kind payload expiresAt code =>
      obtain rfl := of_decide_eq_true h
      cases code with
      | none => exact .inr fun row hleaves => (hrow hleaves).1
      | some code =>
          by_cases hkind : kind = submitCodeStateKind
          · exact .inl (decide_eq_true ⟨rfl, hkind⟩)
          · exact .inr fun row hleaves => absurd (hrow hleaves).2 hkind
  | _ => cases h

theorem CodeOp.leaves_of_countsAt {op : CodeOp} {key : CodeKey} (h : op.countsAt key) :
    (∀ e old, op.leaves e old = old.map CodeRow.tried) ∨
      ∀ e old old', op.leaves e old = op.leaves e old' := by
  cases op with
  | incrementLoginCodeAttempts email code => exact .inl fun _ _ => rfl
  | putEphemeralState id kind payload expiresAt code => exact .inr fun _ _ _ => rfl
  | _ => cases h

variable {t : Trace (codeService readOnly true)} {i : ℕ} {e : CodeEnv} {op : CodeOp}

/-- The row of a code after a request, in terms of the rows before it: it is the same row, or a new
code was put, or an attempt was counted on the row, or it is what the caller read, with the attempt
counted. -/
theorem rowAt_serve (hf : op.Follows i t) {key : CodeKey} {row' : CodeRow}
    (h : rowAt (t.serve i e op) key = some row') :
    (rowAt t key = some row' ∧ (op.writes key → readOnly = true)) ∨
    (row'.code = ⟨key, e.number⟩ ∧ e.number ∈ mintedIn (t.serve i e op)) ∨
    (∃ row, rowAt t key = some row ∧ row' = row.tried) ∨
    ∃ row : CodeRow, row.code.key = key ∧ op.counts row.code ∧ Counting i row t ∧ Current i row t ∧
      row' = row.tried := by
  have hrow : rowAt (t.serve i e op) key = _ :=
    CodeStore.codeAt_serve readOnly t.state e op key
  rw [hrow] at h
  split at h
  · rename_i hw
    obtain ⟨hw, rfl⟩ := hw
    rcases CodeOp.leaves_of_writes hw e (rowAt t key) with hcount | hnew
    · rcases CodeOp.leaves_of_countsAt hcount with hmap | hconst
      · rw [hmap] at h
        obtain ⟨row, hrow, rfl⟩ := Option.map_eq_some_iff.mp h
        exact .inr (.inr (.inl ⟨row, hrow, rfl⟩))
      · obtain ⟨code, hcode, rfl⟩ := hf.home hcount
        obtain ⟨-, row, rfl, hcounting, hcurrent, hleaves⟩ := hf.counts hcode
        rw [hconst e _ (some row), hleaves] at h
        exact .inr (.inr (.inr ⟨row, rfl, hcode, hcounting, hcurrent, (Option.some.inj h).symm⟩))
    · refine .inr (.inl ⟨hnew _ h, ?_⟩)
      obtain ⟨d, -, hstate⟩ := CodeStore.serve_write t.state e hw
      rw [CodeEnv.on_number] at hstate
      show e.number ∈ CodeStore.minted (CodeStore.serve t.state e false true op).2
      rw [hstate]
      exact List.mem_cons_self
  · rename_i hw
    exact .inl ⟨h, fun hwrites => by simpa using fun hro => hw ⟨hwrites, hro⟩⟩

theorem countsOf_serve (code : CodeId) : countsOf code (t.serve i e op).events =
    countsOf code t.events + if op.counts code then 1 else 0 := by
  unfold countsOf
  rw [Trace.serve_events, List.countP_append, List.countP_singleton]

/-- An undisturbed count finds all earlier counts in the row that was read. -/
theorem Counting.bound {row : CodeRow} {res : op.Res} (h : Counting i row t)
    (hu : countedUndisturbed (t.events ++ [⟨i, op, res⟩])) (hc : op.counts row.code) :
    countsOf row.code t.events ≤ row.attempts ∧ row.attempts < loginCodeMaxAttempts := by
  obtain ⟨hlt, pre, r, post, heq, hi, hr, hpre, hown⟩ := h
  rw [heq] at hu
  have hzero : countsOf row.code (r :: post) = 0 := by
    refine List.countP_eq_zero.mpr fun ev hev hcounts => ?_
    have hat := CodeOp.counts_countsAt hcounts
    rcases List.mem_cons.mp hev with rfl | hev
    · obtain ⟨j, op', res'⟩ := ev
      cases op' <;> first | cases hat | cases hr
    · exact hown ev hev (hu.own hr (CodeOp.counts_countsAt hc) hi hev hat) hat
  have hsum : countsOf row.code t.events =
      countsOf row.code pre + countsOf row.code (r :: post) := by
    rw [heq]
    exact List.countP_append
  have hle := hpre ((List.append_assoc pre (r :: post) _ ▸ hu).left)
  exact ⟨by omega, hlt⟩

/-- An undisturbed write finds the row as it was left. -/
theorem Current.now {row : CodeRow} {res : op.Res} (h : Current i row t)
    (hu : writtenUndisturbed (t.events ++ [⟨i, op, res⟩])) (hv : op.verifies row.code.key) :
    rowAt t row.code.key = some row := by
  obtain ⟨pre, r, post, heq, hi, hr, hrow⟩ := h
  rw [heq] at hu
  exact hrow fun w hw hwrites => hu.own hr hv hi hw hwrites

theorem minted_serve {n : ℕ} (h : n ∈ mintedIn t) : n ∈ mintedIn (t.serve i e op) :=
  CodeStore.minted_serve readOnly true t.state e op h

theorem Redeemed.more {code : CodeId} {evs more : List CodeEvent} (h : Redeemed i code evs) :
    Redeemed i code (evs ++ more) := by
  obtain ⟨x, y, hsub, h⟩ := h
  exact ⟨x, y, hsub.trans (List.sublist_append_left _ _), h⟩

/-- A code that is redeemed was redeemed before, or the request deletes it after a right guess of
the same program. -/
theorem redeemed_serve {j : ℕ} {code : CodeId} (h : Redeemed j code (t.serve i e op).events) :
    Redeemed j code t.events ∨
      j = i ∧ op.deletes code.key ∧ ∃ x ∈ t.events, x.caller = i ∧ matched code x := by
  obtain ⟨x, y, hsub, hx, hy, hmatched, hdeletes⟩ := h
  rw [Trace.serve_events] at hsub
  rcases pair_sublist_concat.mp hsub with hsub | ⟨hmem, rfl⟩
  · exact .inl ⟨x, y, hsub, hx, hy, hmatched, hdeletes⟩
  · obtain rfl : i = j := hy
    exact .inr ⟨rfl, hdeletes, x, hmem, hx, hmatched⟩

theorem matched_compares {code : CodeId} {ev : CodeEvent} (h : matched code ev) :
    ev.op.compares code := by
  obtain ⟨j, op, res⟩ := ev
  cases op with
  | compareHash code' stored given =>
      simp only [matched, decide_eq_true_eq] at h
      exact decide_eq_true h.1
  | _ => cases h

/-- A redeemed code has a number. -/
theorem CodeInvariant.redeemed_minted (h : CodeInvariant t) {j : ℕ} {code : CodeId}
    (hr : Redeemed j code t.events) : code.number ∈ mintedIn t := by
  obtain ⟨x, y, hsub, -, -, hmatched, -⟩ := hr
  have hx : x ∈ t.events := hsub.subset List.mem_cons_self
  obtain ⟨ev, hev, -, hcounts⟩ := h.guessed hx (matched_compares hmatched)
  exact h.counted hev hcounts

theorem callersOf_serve (p : CodeOp → Bool) : callersOf p (t.serve i e op).events =
    callersOf p t.events ++ if p op then [i] else [] := by
  unfold callersOf
  rw [Trace.serve_events, List.filter_append, List.map_append, List.filter_singleton]
  cases p op <;> rfl

theorem mem_callersOf {p : CodeOp → Bool} {evs : List CodeEvent} {j : ℕ} :
    j ∈ callersOf p evs ↔ ∃ ev ∈ evs, p ev.op ∧ ev.caller = j := by
  simp [callersOf, and_assoc]

/-- A program that sends a request of a kind once keeps the callers of this kind distinct. -/
theorem callersOf_nodup {p : CodeOp → Bool} (h : (callersOf p t.events).Nodup)
    (hnew : p op → ∀ ev ∈ t.events, ev.caller = i → ¬ p ev.op) :
    (callersOf p (t.serve i e op).events).Nodup := by
  rw [callersOf_serve]
  split
  · rename_i hop
    refine h.append (List.nodup_singleton i) (List.disjoint_singleton.mpr fun hmem => ?_)
    obtain ⟨ev, hev, hp, hi⟩ := mem_callersOf.mp hmem
    exact hnew hop ev hev hi hp
  · rw [List.append_nil]
    exact h

theorem CodeInvariant.home_serve (h : CodeInvariant t) (hf : op.Follows i t) {key : CodeKey}
    {row : CodeRow} (hrow : rowAt (t.serve i e op) key = some row) :
    row.code.key = key ∧ row.code.number ∈ mintedIn (t.serve i e op) := by
  rcases rowAt_serve hf hrow with ⟨hsame, -⟩ | ⟨hcode, hminted⟩ | ⟨old, hold, rfl⟩ |
    ⟨old, hkey, hcounts, -, -, rfl⟩
  · exact ⟨(h.home hsame).1, minted_serve (h.home hsame).2⟩
  · rw [hcode]
    exact ⟨rfl, hminted⟩
  · exact ⟨(h.home hold).1, minted_serve (h.home hold).2⟩
  · exact ⟨hkey, minted_serve (hf.counts hcounts).1⟩

theorem CodeInvariant.limited_serve (h : CodeInvariant t) (hf : op.Follows i t)
    (hu : countedUndisturbed (t.serve i e op).events) (code : CodeId) :
    countsOf code (t.serve i e op).events ≤ loginCodeMaxAttempts := by
  rw [countsOf_serve]
  split
  · rename_i hcounts
    obtain ⟨-, row, rfl, hcounting, -⟩ := hf.counts hcounts
    have := hcounting.bound hu hcounts
    omega
  · exact h.limited hu.left code

theorem CodeInvariant.attempts_serve (h : CodeInvariant t) (he : e.number ∉ mintedIn t)
    (hf : op.Follows i t) (hu : countedUndisturbed (t.serve i e op).events) {key : CodeKey}
    {row : CodeRow} (hrow : rowAt (t.serve i e op) key = some row) :
    countsOf row.code (t.serve i e op).events ≤ row.attempts := by
  have hle : (if op.counts row.code then 1 else 0) ≤ 1 := by split <;> omega
  rw [countsOf_serve]
  rcases rowAt_serve hf hrow with ⟨hsame, hwrites⟩ | ⟨hcode, hminted⟩ | ⟨old, hold, rfl⟩ |
    ⟨old, hkey, hcounts, hcounting, -, rfl⟩
  · have hih := h.attempts hu.left hsame
    obtain ⟨hkey, hmem⟩ := h.home hsame
    have hno : ¬ op.counts row.code := by
      intro hcounts
      have hw := CodeOp.countsAt_writes (CodeOp.counts_countsAt hcounts)
      rw [hkey] at hw
      rw [h.disabled (hwrites hw)] at hmem
      cases hmem
    rw [if_neg hno]
    exact hih
  · have hfresh : row.code.number ∉ mintedIn t := by
      rw [hcode]
      exact he
    have hno : ¬ op.counts row.code := fun hcounts => hfresh (hf.counts hcounts).1
    have hzero : countsOf row.code t.events = 0 :=
      List.countP_eq_zero.mpr fun ev hev hcounts => hfresh (h.counted hev hcounts)
    rw [if_neg hno, hzero]
    exact Nat.zero_le _
  · have hih : countsOf old.code t.events ≤ old.attempts := h.attempts hu.left hold
    show countsOf old.code t.events + _ ≤ old.attempts + 1
    exact Nat.add_le_add hih hle
  · have hih := (hcounting.bound hu hcounts).1
    show countsOf old.code t.events + _ ≤ old.attempts + 1
    exact Nat.add_le_add hih hle

/-- The row of an old code after an undisturbed request is its row before, at most with attempts
counted. -/
theorem fades_serve (he : e.number ∉ mintedIn t) (hf : op.Follows i t)
    (hu : writtenUndisturbed (t.serve i e op).events) {row : CodeRow}
    (hrow : rowAt (t.serve i e op) row.code.key = some row)
    (hold : row.code.number ∈ mintedIn t) : ∃ row₀ : CodeRow,
      rowAt t row.code.key = some row₀ ∧ row₀.code = row.code ∧ row₀.attempts ≤ row.attempts ∧
        row₀.expiresAt = row.expiresAt := by
  rcases rowAt_serve hf hrow with ⟨hsame, -⟩ | ⟨hcode, -⟩ | ⟨old, hold, rfl⟩ |
    ⟨old, hkey, hcounts, -, hcurrent, rfl⟩
  · exact ⟨row, hsame, rfl, le_refl _, rfl⟩
  · rw [hcode] at hold
    exact absurd hold he
  · exact ⟨old, hold, rfl, Nat.le_succ _, rfl⟩
  · have hv : op.verifies old.code.key :=
      Bool.or_eq_true_iff.mpr (.inl (CodeOp.counts_countsAt hcounts))
    exact ⟨old, hcurrent.now hu hv, rfl, Nat.le_succ _, rfl⟩

/-- A program that deletes a code after a right guess finds it in its row. -/
theorem present_of_deletes (hf : op.Follows i t)
    (hu : writtenUndisturbed (t.serve i e op).events) {code : CodeId} (hd : op.deletes code.key)
    {x : CodeEvent} (hx : x ∈ t.events) (hi : x.caller = i) (hm : matched code x) :
    ∃ row : CodeRow, row.code = code ∧ rowAt t code.key = some row := by
  obtain ⟨row, rfl, hcurrent⟩ := hf.deletes hd hx hi hm
  exact ⟨row, rfl, hcurrent.now hu (Bool.or_eq_true_iff.mpr (.inr hd))⟩

theorem CodeInvariant.once_serve (h : CodeInvariant t) (hf : op.Follows i t)
    (hu : writtenUndisturbed (t.serve i e op).events) {j j' : ℕ} {code : CodeId}
    (hj : Redeemed j code (t.serve i e op).events)
    (hj' : Redeemed j' code (t.serve i e op).events) : j = j' := by
  have hgone : ∀ {j : ℕ} {x : CodeEvent}, op.deletes code.key → x ∈ t.events → x.caller = i →
      matched code x → ¬ Redeemed j code t.events := by
    intro j x hd hx hi hm
    obtain ⟨row, rfl, hrow⟩ := present_of_deletes hf hu hd hx hi hm
    exact h.gone hu.left hrow
  rcases redeemed_serve hj with hold | ⟨rfl, hd, x, hx, hi, hm⟩ <;>
    rcases redeemed_serve hj' with hold' | ⟨rfl, hd', x', hx', hi', hm'⟩
  · exact h.once hu.left hold hold'
  · exact absurd hold (hgone hd' hx' hi' hm')
  · exact absurd hold' (hgone hd hx hi hm)
  · rfl

theorem CodeInvariant.gone_serve (h : CodeInvariant t) (he : e.number ∉ mintedIn t)
    (hf : op.Follows i t) (hu : writtenUndisturbed (t.serve i e op).events) {j : ℕ} {row : CodeRow}
    (hrow : rowAt (t.serve i e op) row.code.key = some row) :
    ¬ Redeemed j row.code (t.serve i e op).events := by
  intro hj
  rcases redeemed_serve hj with hold | ⟨rfl, hd, x, hx, hi, hm⟩
  · obtain ⟨row₀, hrow₀, hcode, -⟩ := fades_serve he hf hu hrow (h.redeemed_minted hold)
    rw [← hcode] at hold hrow₀
    exact h.gone hu.left hrow₀ hold
  · obtain ⟨row₀, -, hrow₀⟩ := present_of_deletes hf hu hd hx hi hm
    have hleaves := CodeStore.codeAt_serve readOnly t.state e op row.code.key
    cases readOnly with
    | true =>
        have hmem := (h.home hrow₀).2
        rw [h.disabled rfl] at hmem
        cases hmem
    | false =>
        rw [if_pos ⟨CodeOp.deletes_writes hd, rfl⟩, CodeOp.leaves_of_deletes hd] at hleaves
        exact absurd (hrow.symm.trans hleaves) (Option.some_ne_none row)

/-- A request that follows the rules keeps the invariant. -/
theorem CodeInvariant.serve (h : CodeInvariant t) (he : e.number ∉ mintedIn t)
    (hf : op.Follows i t) : CodeInvariant (t.serve i e op) where
  home := h.home_serve hf
  disabled hro := by
    rcases CodeStore.serve_state readOnly true t.state e op with heq | ⟨hro', -⟩
    · exact (congrArg CodeStore.minted heq).trans (h.disabled hro)
    · exact absurd (hro.symm.trans hro') Bool.noConfusion
  counted {ev code} hev hcounts := by
    rcases List.mem_append.mp hev with hev | hev
    · exact minted_serve (h.counted hev hcounts)
    · rw [List.mem_singleton.mp hev] at hcounts
      exact minted_serve (hf.counts hcounts).1
  guessed {ev code} hev hcompares := by
    rcases List.mem_append.mp hev with hev | hev
    · obtain ⟨ev', hev', h'⟩ := h.guessed hev hcompares
      exact ⟨ev', List.mem_append_left _ hev', h'⟩
    · rw [List.mem_singleton.mp hev] at hcompares ⊢
      obtain ⟨ev', hev', h'⟩ := (hf.compares hcompares).1
      exact ⟨ev', List.mem_append_left _ hev', h'⟩
  guessers code := callersOf_nodup (h.guessers code) fun hop => (hf.compares hop).2
  limited hu code := h.limited_serve hf hu code
  attempts hu _ _ hrow := h.attempts_serve he hf hu hrow
  once hu _ _ _ hj hj' := h.once_serve hf hu hj hj'
  gone hu _ _ hrow := h.gone_serve he hf hu hrow
  issued {ev code} hev hissues := by
    rcases List.mem_append.mp hev with hev | hev
    · exact (h.issued hev hissues).more
    · rw [List.mem_singleton.mp hev] at hissues ⊢
      exact (hf.issues hissues).1.more
  issuers code := callersOf_nodup (h.issuers code) fun hop => (hf.issues hop).2

theorem CodeRely.serve {j : ℕ} (hne : j ≠ i) : CodeRely j t (t.serve i e op) where
  grows := by
    refine ⟨_, Trace.serve_events t i e op, fun ev hev => ?_, fun key hkey => ?_⟩
    · rw [List.mem_singleton.mp hev]
      exact hne.symm
    · have hno := hkey _ (List.mem_singleton_self _)
      have hrow := CodeStore.codeAt_serve readOnly t.state e op key
      rw [if_neg fun hw => hno hw.1] at hrow
      exact hrow
  minted := minted_serve

theorem CodeRely.refl (i : ℕ) (t : Trace (codeService readOnly true)) : CodeRely i t t :=
  ⟨⟨[], (List.append_nil _).symm, fun _ h => (by cases h), fun _ _ => rfl⟩, fun h => h⟩

theorem CodeRely.trans {t₁ t₂ t₃ : Trace (codeService readOnly true)} (h₁ : CodeRely i t₁ t₂)
    (h₂ : CodeRely i t₂ t₃) : CodeRely i t₁ t₃ := by
  obtain ⟨⟨more, heq, hcallers, hrows⟩, hminted⟩ := h₁
  obtain ⟨⟨more', heq', hcallers', hrows'⟩, hminted'⟩ := h₂
  refine ⟨⟨more ++ more', by rw [heq', heq, List.append_assoc], ?_, fun key hkey => ?_⟩,
    fun h => hminted' (hminted h)⟩
  · exact fun ev hev => (List.mem_append.mp hev).elim (hcallers ev) (hcallers' ev)
  · have hfirst := hrows key fun ev hev => hkey ev (List.mem_append_left _ hev)
    have hsecond := hrows' key fun ev hev => hkey ev (List.mem_append_right _ hev)
    exact hsecond.trans hfirst

end

/-- The rely–guarantee discipline of the code mutations. -/
def codeDiscipline (readOnly : Bool) : Discipline (codeService readOnly true) where
  Inv := CodeInvariant
  Rely := CodeRely
  Pre i t op := op.Follows i t
  refl := .refl
  trans := .trans
  inv_step h he hf := h.serve he hf
  rely_step hne _ _ _ := .serve hne

/-! ### What a verifying call knows -/

section
variable {readOnly : Bool} {t t' : Trace (codeService readOnly true)} {i : ℕ} {e : CodeEnv}
variable {op : CodeOp} {row : CodeRow}

/-- All requests of program `i` satisfy `P`. -/
def Own (i : ℕ) (P : CodeOp → Prop) (t : Trace (codeService readOnly true)) : Prop :=
  ∀ ev ∈ t.events, ev.caller = i → P ev.op

theorem Own.rely {P : CodeOp → Prop} (h : Own i P t) (hr : CodeRely i t t') : Own i P t' := by
  obtain ⟨more, heq, hcallers, -⟩ := hr.grows
  intro ev hev hi
  rw [heq] at hev
  rcases List.mem_append.mp hev with hev | hev
  · exact h ev hev hi
  · exact absurd hi (hcallers ev hev)

theorem Own.serve {P : CodeOp → Prop} (h : Own i P t) (hop : P op) :
    Own i P (t.serve i e op) := by
  intro ev hev hi
  rcases List.mem_append.mp hev with hev | hev
  · exact h ev hev hi
  · rw [List.mem_singleton.mp hev]
    exact hop

theorem Own.mono {P Q : CodeOp → Prop} (h : Own i P t) (hPQ : ∀ op, P op → Q op) : Own i Q t :=
  fun ev hev hi => hPQ _ (h ev hev hi)

theorem CodeRely.mem (h : CodeRely i t t') {ev : CodeEvent} (hev : ev ∈ t.events) :
    ev ∈ t'.events := by
  obtain ⟨more, heq, -⟩ := h.grows
  exact heq ▸ List.mem_append_left _ hev

/-- Requests that no rule restricts. -/
def CodeOp.Free : CodeOp → Prop
  | .compareHash .. | .deleteLoginCode _ | .deleteEphemeralState _
  | .incrementLoginCodeAttempts .. | .createUserToken .. | .putEphemeralState _ _ _ _ (some _) =>
      False
  | _ => True

/-- A request of a given kind, of no other kind. -/
structure CodeOp.Only (op : CodeOp) (counts compares deletes issues : Prop) : Prop where
  counts : ∀ {key}, op.countsAt key → counts
  compares : ∀ {code}, op.compares code → compares
  deletes : ∀ {key}, op.deletes key → deletes
  issues : ∀ {code}, op.issues code → issues

theorem CodeOp.Free.only (h : op.Free) : op.Only False False False False := by
  constructor <;> intro x hx <;> cases op <;> first | exact h.elim | cases hx | skip
  all_goals
    rename_i code'
    cases code' with
    | none => cases hx
    | some code' => exact h.elim

theorem CodeOp.Free.follows (h : op.Free) : op.Follows i t where
  home hx := (h.only.counts hx).elim
  counts hx := (h.only.counts (CodeOp.counts_countsAt hx)).elim
  compares hx := (h.only.compares hx).elim
  deletes hx := (h.only.deletes hx).elim
  issues hx := (h.only.issues hx).elim

/-- Program `i` has only sent requests that no rule restricts. -/
abbrev Idle (i : ℕ) (t : Trace (codeService readOnly true)) : Prop := Own i CodeOp.Free t

abbrev Unguessed (i : ℕ) (t : Trace (codeService readOnly true)) : Prop :=
  Own i (fun op => ∀ code, ¬ op.compares code) t

abbrev Tokenless (i : ℕ) (t : Trace (codeService readOnly true)) : Prop :=
  Own i (fun op => ∀ code, ¬ op.issues code) t

theorem Current.rely (h : Current i row t) (hr : CodeRely i t t') : Current i row t' := by
  obtain ⟨pre, r, post, heq, hi, hreads, hrow⟩ := h
  obtain ⟨more, heq', hcallers, hrows⟩ := hr.grows
  refine ⟨pre, r, post ++ more, ?_, hi, hreads, fun hown => ?_⟩
  · rw [heq', heq, List.append_assoc, List.cons_append]
  · have hmore : ∀ ev ∈ more, ¬ ev.op.writes row.code.key := fun ev hev hw =>
      hcallers ev hev (hown ev (List.mem_append_right _ hev) hw)
    rw [hrows _ hmore]
    exact hrow fun w hw => hown w (List.mem_append_left _ hw)

theorem serve_split {pre post : List CodeEvent} {r : CodeEvent}
    (h : t.events = pre ++ r :: post) : (t.serve i e op).events =
      pre ++ r :: (post ++ [⟨i, op, (CodeStore.serve t.state e readOnly true op).1⟩]) := by
  rw [Trace.serve_events, h, List.append_assoc, List.cons_append]

theorem Current.serve (h : Current i row t) (hop : ¬ op.writes row.code.key) :
    Current i row (t.serve i e op) := by
  obtain ⟨pre, r, post, heq, hi, hreads, hrow⟩ := h
  refine ⟨pre, r, _, serve_split heq, hi, hreads, fun hown => ?_⟩
  have hsame := CodeStore.codeAt_serve readOnly t.state e op row.code.key
  rw [if_neg fun hw => hop hw.1] at hsame
  exact hsame.trans (hrow fun w hw => hown w (List.mem_append_left _ hw))

/-- Counting the attempt keeps the row known. -/
theorem Current.count (h : Current i row t) (hro : readOnly = false)
    (hop : op.writes row.code.key) (hleaves : op.leaves e (some row) = some row.tried) :
    Current i row.tried (t.serve i e op) := by
  obtain ⟨pre, r, post, heq, hi, hreads, hrow⟩ := h
  refine ⟨pre, r, _, serve_split heq, hi, hreads, fun hown => ?_⟩
  have hbefore : (CodeStore.db t.state).now.codeAt row.code.key = some row :=
    hrow fun w hw => hown w (List.mem_append_left _ hw)
  have hafter := CodeStore.codeAt_serve readOnly t.state e op row.code.key
  rw [if_pos ⟨hop, hro⟩, hbefore, hleaves] at hafter
  exact hafter

/-- A call that has read `row` and done nothing with it yet. -/
structure Loaded (i : ℕ) (row : CodeRow) (t : Trace (codeService readOnly true)) : Prop where
  minted : row.code.number ∈ mintedIn t
  read : ∃ pre r post, t.events = pre ++ r :: post ∧ r.caller = i ∧
    r.op.reads row.code.key ∧ (countedUndisturbed pre → countsOf row.code pre ≤ row.attempts)
  current : Current i row t
  idle : Idle i t

theorem Loaded.of_read (h : CodeInvariant t) (hidle : Idle i t) {key : CodeKey}
    (hop : op.Free) (hr : op.reads key) (hrow : rowAt t key = some row) :
    Loaded i row (t.serve i e op) := by
  obtain ⟨rfl, hminted⟩ := h.home hrow
  have hsame : rowAt (t.serve i e op) row.code.key = rowAt t row.code.key := by
    have hno : ¬ op.writes row.code.key := by
      intro hw
      cases op <;> first | cases hr | cases hw
    have h := CodeStore.codeAt_serve readOnly t.state e op row.code.key
    rw [if_neg fun hw => hno hw.1] at h
    exact h
  exact ⟨minted_serve hminted, ⟨t.events, _, [], rfl, rfl, hr, fun hu => h.attempts hu hrow⟩,
    ⟨t.events, _, [], rfl, rfl, hr, fun _ => hsame.trans hrow⟩, hidle.serve hop⟩

theorem Loaded.rely (h : Loaded i row t) (hr : CodeRely i t t') : Loaded i row t' := by
  obtain ⟨more, heq', -⟩ := hr.grows
  obtain ⟨pre, r, post, heq, hread⟩ := h.read
  refine ⟨hr.minted h.minted, ⟨pre, r, post ++ more, ?_, hread⟩, h.current.rely hr,
    h.idle.rely hr⟩
  rw [heq', heq, List.append_assoc, List.cons_append]

theorem Loaded.counting (h : Loaded i row t) (hlt : row.attempts < loginCodeMaxAttempts) :
    Counting i row t := by
  obtain ⟨pre, r, post, heq, hi, hreads, hcounts⟩ := h.read
  refine ⟨hlt, pre, r, post, heq, hi, hreads, hcounts, fun ev hev hcaller hat => ?_⟩
  have hmem : ev ∈ t.events := heq ▸ List.mem_append_right _ (List.mem_cons_of_mem _ hev)
  exact (h.idle ev hmem hcaller).only.counts hat

/-- The next request of a call that has read a row below the limit: count the attempt. -/
theorem Loaded.follows (h : Loaded i row t) (hlt : row.attempts < loginCodeMaxAttempts)
    (hcounts : op.counts row.code) (honly : op.Only True False False False)
    (hkey : ∀ {key}, op.countsAt key → key = row.code.key)
    (hcode : ∀ {code}, op.counts code → code = row.code)
    (hleaves : ∀ e, op.leaves e (some row) = some row.tried) : op.Follows i t where
  home hx := ⟨row.code, hcounts, (hkey hx).symm⟩
  counts hx := by
    obtain rfl := hcode hx
    exact ⟨h.minted, row, rfl, h.counting hlt, h.current, hleaves⟩
  compares hx := (honly.compares hx).elim
  deletes hx := (honly.deletes hx).elim
  issues hx := (honly.issues hx).elim

/-- A call that has counted its attempt on the row. -/
structure Tried (i : ℕ) (row : CodeRow) (t : Trace (codeService readOnly true)) : Prop where
  counted : ∃ ev ∈ t.events, ev.caller = i ∧ ev.op.counts row.code
  current : Current i row t
  unguessed : Unguessed i t
  tokenless : Tokenless i t

theorem Tried.rely (h : Tried i row t) (hr : CodeRely i t t') : Tried i row t' := by
  obtain ⟨ev, hev, hcounted⟩ := h.counted
  exact ⟨⟨ev, hr.mem hev, hcounted⟩, h.current.rely hr, h.unguessed.rely hr, h.tokenless.rely hr⟩

theorem Loaded.serve (h : Loaded i row t) (hinv : CodeInvariant t) (hcounts : op.counts row.code)
    (honly : op.Only True False False False)
    (hleaves : ∀ e, op.leaves e (some row) = some row.tried) :
    Tried i row.tried (t.serve i e op) := by
  have hro : readOnly = false := by
    cases readOnly with
    | false => rfl
    | true =>
        have hmem := h.minted
        rw [hinv.disabled rfl] at hmem
        cases hmem
  refine ⟨⟨_, List.mem_append_right _ (List.mem_singleton_self _), rfl, hcounts⟩,
    h.current.count hro (CodeOp.countsAt_writes (CodeOp.counts_countsAt hcounts)) (hleaves e),
    ?_, ?_⟩
  · exact (h.idle.mono fun _ hf _ => hf.only.compares).serve fun _ => honly.compares
  · exact (h.idle.mono fun _ hf _ => hf.only.issues).serve fun _ => honly.issues

theorem Tried.follows (h : Tried i row t) (stored given : String) :
    (CodeOp.compareHash row.code stored given).Follows i t where
  home hx := by cases hx
  counts hx := by cases hx
  compares hx := by
    obtain rfl := of_decide_eq_true hx
    exact ⟨h.counted, fun ev hev hi => h.unguessed ev hev hi row.code⟩
  deletes hx := by cases hx
  issues hx := by cases hx

/-- A call whose guess was right. -/
structure Matched (i : ℕ) (row : CodeRow) (t : Trace (codeService readOnly true)) : Prop where
  guessed : ∃ x ∈ t.events, x.caller = i ∧ matched row.code x
  only : ∀ x ∈ t.events, x.caller = i → ∀ code, matched code x → code = row.code
  current : Current i row t
  tokenless : Tokenless i t

theorem Matched.rely (h : Matched i row t) (hr : CodeRely i t t') : Matched i row t' := by
  obtain ⟨ev, hev, hmatched⟩ := h.guessed
  refine ⟨⟨ev, hr.mem hev, hmatched⟩, fun x hx hi => ?_, h.current.rely hr, h.tokenless.rely hr⟩
  obtain ⟨more, heq, hcallers, -⟩ := hr.grows
  rw [heq] at hx
  rcases List.mem_append.mp hx with hx | hx
  · exact h.only x hx hi
  · exact absurd hi (hcallers x hx)

theorem Tried.serve (h : Tried i row t) {stored given : String} (hsame : stored = given) :
    Matched i row (t.serve i e (.compareHash row.code stored given)) := by
  refine ⟨⟨_, List.mem_append_right _ (List.mem_singleton_self _), rfl, ?_⟩, ?_,
    h.current.serve (by intro hw; cases hw), h.tokenless.serve fun _ hx => by cases hx⟩
  · exact decide_eq_true ⟨rfl, beq_iff_eq.mpr hsame⟩
  · intro x hx hi code hm
    rcases List.mem_append.mp hx with hx | hx
    · exact absurd (matched_compares hm) (h.unguessed x hx hi code)
    · rw [List.mem_singleton.mp hx] at hm
      exact (of_decide_eq_true hm).1.symm

theorem Matched.follows (h : Matched i row t) (honly : op.Only False False True False) :
    op.Follows i t where
  home hx := (honly.counts hx).elim
  counts hx := (honly.counts (CodeOp.counts_countsAt hx)).elim
  compares hx := (honly.compares hx).elim
  deletes _ hx hi hm := ⟨row, (h.only _ hx hi _ hm).symm, h.current⟩
  issues hx := (honly.issues hx).elim

/-- A call that has deleted the row after a right guess. -/
structure Won (i : ℕ) (code : CodeId) (t : Trace (codeService readOnly true)) : Prop where
  redeemed : Redeemed i code t.events
  tokenless : Tokenless i t

theorem Won.rely {code : CodeId} (h : Won i code t) (hr : CodeRely i t t') : Won i code t' := by
  obtain ⟨more, heq, -⟩ := hr.grows
  exact ⟨heq ▸ h.redeemed.more, h.tokenless.rely hr⟩

theorem Won.serve {code : CodeId} (h : Won i code t) (hop : op.Free) :
    Won i code (t.serve i e op) :=
  ⟨h.redeemed.more, h.tokenless.serve fun _ => hop.only.issues⟩

theorem Matched.serve (h : Matched i row t) (hd : op.deletes row.code.key)
    (honly : op.Only False False True False) : Won i row.code (t.serve i e op) := by
  obtain ⟨x, hx, hi, hm⟩ := h.guessed
  refine ⟨⟨x, _, pair_sublist_concat.mpr (.inr ⟨hx, rfl⟩), hi, rfl, hm, hd⟩,
    h.tokenless.serve fun _ => honly.issues⟩

theorem Won.follows {code : CodeId} (h : Won i code t) (honly : op.Only False False False True)
    (hcode : ∀ {code'}, op.issues code' → code' = code) : op.Follows i t where
  home hx := (honly.counts hx).elim
  counts hx := (honly.counts (CodeOp.counts_countsAt hx)).elim
  compares hx := (honly.compares hx).elim
  deletes hx := (honly.deletes hx).elim
  issues hx := by
    obtain rfl := hcode hx
    exact ⟨h.redeemed, fun ev hev hi => h.tokenless ev hev hi _⟩

/-- A call that has not compared may delete the row. -/
theorem Idle.follows (h : Idle i t) (honly : op.Only False False True False) :
    op.Follows i t where
  home hx := (honly.counts hx).elim
  counts hx := (honly.counts (CodeOp.counts_countsAt hx)).elim
  compares hx := (honly.compares hx).elim
  deletes _ hx hi hm := ((h _ hx hi).only.compares (matched_compares hm)).elim
  issues hx := (honly.issues hx).elim

end

end Microticket

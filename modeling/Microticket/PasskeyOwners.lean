import Microticket.Contract
import Microticket.PasskeyMutations

/-! # Whose passkeys a registration changes

The key of a credential row is the id that the authenticator of the client chose, and
`create_webauthn_credential` is an unconditional put.  So `finish_passkey_registration` leaves the
rows of all other users as they are exactly if the id it is given is not stored for another user at
the moment of the put (`others_kept`); otherwise the row changes hands (`passkey_taken`). -/

namespace Microticket

open Interleaving Tables RustText

/-! ### What a registration writes -/

/-- The id under which the response of the browser would be stored. -/
def presentedId (libs : WebauthnLibs) (credentialJson : String) : Option String :=
  (libs.parseRegisterCredential credentialJson).toOption.map fun credential =>
    libs.base64Url credential.id

/-- The only credential row that the request may write is the new one of `userId` under the presented
id. -/
def PasskeyOp.registers (libs : WebauthnLibs) (userId credentialJson : String) : PasskeyOp → Prop
  | .createWebauthnCredential id owner _ _ =>
      owner = userId ∧ presentedId libs credentialJson = some id
  | .updateWebauthnCredential .. | .deleteWebauthnCredential _ => False
  | _ => True

/-- Every put of a credential so far was acknowledged. -/
def Acknowledged (h : List PasskeyEvent) : Prop :=
  ∀ i id userId name passkeyJson r,
    ⟨i, .createWebauthnCredential id userId name passkeyJson, r⟩ ∈ h → ∃ cred, r = .ok cred

/-- The requests that put no credential. -/
def PasskeyOp.putsNone : PasskeyOp → Bool
  | .createWebauthnCredential .. => false
  | _ => true

theorem Acknowledged.concat {h : List PasskeyEvent} (hack : Acknowledged h) {ev : PasskeyEvent}
    (hev : ∀ id userId name passkeyJson r, ev =
      ⟨ev.caller, .createWebauthnCredential id userId name passkeyJson, r⟩ → ∃ cred, r = .ok cred) :
    Acknowledged (h ++ [ev]) := by
  intro i id userId name passkeyJson r hmem
  rcases List.mem_append.mp hmem with hmem | hmem
  · exact hack i id userId name passkeyJson r hmem
  · have heq := List.mem_singleton.mp hmem
    subst heq
    exact hev id userId name passkeyJson r rfl

theorem Acknowledged.other {h : List PasskeyEvent} (hack : Acknowledged h) (i : ℕ) {op : PasskeyOp}
    (r : op.Res) (hop : op.putsNone) : Acknowledged (h ++ [⟨i, op, r⟩]) := by
  refine hack.concat fun id userId name passkeyJson r' heq => ?_
  obtain ⟨-, hsame, -⟩ := Event.mk.inj heq
  rw [hsame] at hop
  cases hop

section registration
variable {libs : WebauthnLibs} {userId credentialJson challengeId name : String} {i : ℕ}

/-- A registration writes no row but its own, and if it succeeds its put was acknowledged. -/
abbrev Registers {α : Type} (libs : WebauthnLibs) (userId credentialJson : String) (i : ℕ)
    (p : PasskeyProg α) (h : List PasskeyEvent) : Prop :=
  Sends i (fun _ op => op.registers libs userId credentialJson)
    (fun r h => (∃ a, r = .ok a) → Acknowledged h) p h

/-- Once the response is verified. -/
theorem registers_storePasskey {passkey : Passkey} {h : List PasskeyEvent} (hack : Acknowledged h)
    (hid : presentedId libs credentialJson = some (libs.base64Url passkey.credId)) :
    Registers libs userId credentialJson i (storePasskey libs userId challengeId name passkey) h := by
  refine ⟨trivial, fun count => ?_⟩
  cases count with
  | error e => exact fun hok => absurd hok (by simp)
  | ok count =>
      have hcounted : Acknowledged (h ++ [⟨i, .countWebauthnCredentialsByUser userId, .ok count⟩]) :=
        hack.other i _ rfl
      show Registers libs userId credentialJson i (if _ then _ else _) _
      split
      · exact ⟨trivial, fun _ hok => absurd hok (by simp)⟩
      · refine ⟨⟨rfl, hid⟩, fun cred => ?_⟩
        cases cred with
        | error e => exact fun hok => absurd hok (by simp)
        | ok cred =>
            refine ⟨trivial, fun r _ => Acknowledged.other ?_ i r rfl⟩
            refine hcounted.concat fun id userId name passkeyJson r heq => ?_
            cases heq
            exact ⟨cred, rfl⟩

/-- A registration writes no credential row but that of the presented id, for its own user. -/
theorem registers_finish (laws : RegistrationLaws libs) {memberships : List Membership}
    {isSuperuser : Bool} :
    Registers libs userId credentialJson i (finishPasskeyRegistration libs
      (some (.user userId memberships isSuperuser)) challengeId credentialJson name) [] := by
  have hnone : Acknowledged [] := fun _ _ _ _ _ _ hmem => absurd hmem List.not_mem_nil
  refine ⟨trivial, fun found => ?_⟩
  have hread : Acknowledged ([] ++ [⟨i, .getWebauthnState challengeId, found⟩]) :=
    hnone.other i found rfl
  cases found with
  | error e => exact fun hok => absurd hok (by simp)
  | ok found =>
      refine Sends.ofOption (fun state _ => ?_) fun _ hok => absurd hok (by simp)
      refine Sends.ensure (fun _ => ?_) fun _ hok => absurd hok (by simp)
      refine Sends.ensure (fun _ => ?_) fun _ hok => absurd hok (by simp)
      refine ⟨trivial, fun now => ?_⟩
      have hclock : Acknowledged ([] ++ [⟨i, .getWebauthnState challengeId, .ok found⟩] ++
          [⟨i, .clock, now⟩]) := hread.other i _ rfl
      show Registers libs userId credentialJson i (if _ then _ else _) _
      split
      · exact ⟨trivial, fun _ hok => absurd hok (by simp)⟩
      · refine Sends.ofOption (fun regState _ => ?_) fun _ hok => absurd hok (by simp)
        refine Sends.ofExcept (fun credential hparse => ?_) fun _ _ hok => absurd hok (by simp)
        refine Sends.ofExcept (fun passkey hfinish => ?_) fun _ _ hok => absurd hok (by simp)
        refine registers_storePasskey hclock ?_
        have hcredential := of_mapError_ok hparse
        have hcredId := laws.credId (of_mapError_ok hfinish)
        simp [presentedId, hcredential, hcredId, Except.toOption]

theorem registers_call (laws : RegistrationLaws libs) {memberships : List Membership}
    {isSuperuser : Bool} :
    Registers libs userId credentialJson i ((PasskeyMutation.finishPasskeyRegistration
      (some (.user userId memberships isSuperuser)) challengeId credentialJson name).prog libs) [] :=
  (registers_finish laws).bind (fun info _ hack _ => hack ⟨info, rfl⟩)
    fun _ _ _ hok => absurd hok (by simp)

end registration

/-! ### The rows of the others -/

section frame
variable {readOnly : Bool}

/-- The committed tables. -/
def passkeyDb (t : Trace (passkeyService readOnly)) : PasskeyDb := t.state.db.now

/-- The credential rows of all users but `userId` are the same in `d'`. -/
def PasskeyDb.KeepsOthers (userId : String) (d d' : PasskeyDb) : Prop :=
  ∀ id row, d.credentials.lookup id = some row → row.userId ≠ userId →
    d'.credentials.lookup id = some row

/-- The id is stored for another user. -/
def PasskeyDb.StoredForAnother (userId id : String) (d : PasskeyDb) : Prop :=
  ∃ row, d.credentials.lookup id = some row ∧ row.userId ≠ userId

/-- A put keeps the rows of the others exactly if its id is not stored for one of them. -/
theorem keepsOthers_insert (d : PasskeyDb) {userId id : String} (row : WebauthnCredential)
    (hrow : row.userId = userId) :
    d.KeepsOthers userId { d with credentials := d.credentials.insert id row } ↔
      ¬ d.StoredForAnother userId id := by
  constructor
  · rintro hkeep ⟨old, hold, hother⟩
    have hsame := hkeep id old hold hother
    rw [AList.lookup_insert, Option.some.injEq] at hsame
    exact hother (hsame ▸ hrow)
  · intro hfree id' row' hrow' hother
    have hne : id' ≠ id := by
      rintro rfl
      exact hfree ⟨row', hrow', hother⟩
    rw [Table.lookup_insert_if, if_neg hne]
    exact hrow'

/-- A request of a registration keeps the rows of the others if it is no put of an id that is stored
for another user. -/
theorem keepsOthers_serve {libs : WebauthnLibs} {userId credentialJson : String} {s : PasskeyStore}
    {e : PasskeyEnv} {op : PasskeyOp} (hop : op.registers libs userId credentialJson)
    (hown : ∀ id name passkeyJson, op = .createWebauthnCredential id userId name passkeyJson →
      ¬ s.db.now.StoredForAnother userId id) :
    s.db.now.KeepsOthers userId (s.serve e readOnly op).2.db.now := by
  have hrefl : s.db.now.KeepsOthers userId s.db.now := fun _ _ hrow _ => hrow
  rcases s.serve_state e readOnly op with heq | ⟨-, d, hd, heq⟩
  · rw [heq]
    exact hrefl
  · rw [heq]
    show s.db.now.KeepsOthers userId d
    cases op with
    | createWebauthnCredential id owner name passkeyJson =>
        obtain ⟨rfl, -⟩ := hop
        cases hd
        exact (keepsOthers_insert _ (newCredential id owner name passkeyJson e.now) rfl).mpr
          (hown id name passkeyJson rfl)
    | updateWebauthnCredential => cases hop
    | deleteWebauthnCredential => cases hop
    | _ =>
        cases hd
        exact hrefl

/-- A put that was acknowledged keeps the rows of the others only if its id is not stored for one of
them. -/
theorem keepsOthers_put {userId id name : String} {passkeyJson : PasskeyJson} {s : PasskeyStore}
    {e : PasskeyEnv} {cred : WebauthnCredential}
    (hack : (s.serve e readOnly (.createWebauthnCredential id userId name passkeyJson)).1 = .ok cred)
    (hkeep : s.db.now.KeepsOthers userId
      (s.serve e readOnly (.createWebauthnCredential id userId name passkeyJson)).2.db.now) :
    ¬ s.db.now.StoredForAnother userId id := by
  obtain ⟨d, hd, heq⟩ := PasskeyStore.write_ok hack
  cases hd
  refine (keepsOthers_insert _ (newCredential id userId name passkeyJson e.now) rfl).mp ?_
  have hstate : (s.serve e readOnly (.createWebauthnCredential id userId name passkeyJson)).2 = _ :=
    heq
  rw [hstate] at hkeep
  exact hkeep

/-- Along a run the earlier tables stay among the committed ones. -/
theorem committed_run {Start : PasskeyProg PasskeyReply → Prop}
    {c c' : Pool (passkeyService readOnly) Error PasskeyReply}
    (h : Run (passkeyService readOnly) Start c c') :
    c'.trace.state.db.Committed (passkeyDb c.trace) := by
  induction h with
  | refl => exact Replica.committed_now _
  | @tail c₁ c₂ _ hs ih =>
      cases hs with
      | start p hp => exact ih
      | @serve i e op k hi he =>
          rw [Trace.serve_state]
          rcases c₁.trace.state.serve_state e readOnly op with heq | ⟨-, d, -, heq⟩
          · show (c₁.trace.state.serve e readOnly op).2.db.Committed _
            rw [heq]
            exact ih
          · show (c₁.trace.state.serve e readOnly op).2.db.Committed _
            rw [heq]
            exact Replica.committed_write d ih

/-! ### Calls in a run -/

variable {libs : WebauthnLibs} {i : ℕ} {userId credentialJson : String}
variable {c : Pool (passkeyService readOnly) Error PasskeyReply}

/-- The step from `c₁` to `c₂` of a run that goes on to `c` serves the request `ev` of call `i`. -/
structure CallStep (libs : WebauthnLibs) (i : ℕ)
    (c c₁ c₂ : Pool (passkeyService readOnly) Error PasskeyReply) (ev : PasskeyEvent) : Prop where
  reachable : PasskeyReachable libs readOnly c₁
  serves : Serves (passkeyService readOnly) (IsPasskeyMutation libs) c₁ c₂ ev
  rest : Run (passkeyService readOnly) (IsPasskeyMutation libs) c₂ c
  caller : ev.caller = i

/-- The call `i` of the user has left the rows of the others as they were. -/
def OthersKept (libs : WebauthnLibs) (i : ℕ) (userId : String)
    (c : Pool (passkeyService readOnly) Error PasskeyReply) : Prop :=
  ∀ c₁ c₂ ev, CallStep libs i c c₁ c₂ ev →
    (passkeyDb c₁.trace).KeepsOthers userId (passkeyDb c₂.trace)

/-- Whenever the call `i` puts a credential, its id is not stored for another user. -/
def PresentsOwn (libs : WebauthnLibs) (i : ℕ) (userId : String)
    (c : Pool (passkeyService readOnly) Error PasskeyReply) : Prop :=
  ∀ c₁ c₂ ev id name passkeyJson, CallStep libs i c c₁ c₂ ev →
    ev.op = .createWebauthnCredential id userId name passkeyJson →
    ¬ (passkeyDb c₁.trace).StoredForAnother userId id

/-- A registration by a user leaves the credentials of all other users as they are if the id that it
presents is not stored for one of them when it is put; and a registration that succeeds does so only
then. -/
theorem others_kept (laws : RegistrationLaws libs) {memberships : List Membership}
    {isSuperuser : Bool} {challengeId name : String}
    (hplays : c.Plays i ((PasskeyMutation.finishPasskeyRegistration
      (some (.user userId memberships isSuperuser)) challengeId credentialJson name).prog libs)) :
    (PresentsOwn libs i userId c → OthersKept libs i userId c) ∧
    ((∃ reply, c.threads[i]? = some (.done reply)) →
      OthersKept libs i userId c → PresentsOwn libs i userId c) := by
  constructor
  · intro hown c₁ c₂ ev hstep
    obtain ⟨hreach, hserves, hrest, rfl⟩ := hstep
    have hop : ev.op.registers libs userId credentialJson :=
      hserves.permitted hrest hplays (registers_call laws)
    obtain ⟨e, k, hk, he, htrace, hres⟩ := hserves.trace
    unfold passkeyDb
    rw [htrace]
    refine keepsOthers_serve hop fun id name passkeyJson heq => ?_
    exact hown c₁ c₂ ev id name passkeyJson ⟨hreach, hserves, hrest, rfl⟩ heq
  · rintro ⟨reply, hdone⟩ hkept c₁ c₂ ev id name passkeyJson hstep heq
    have hkeep := hkept c₁ c₂ ev hstep
    obtain ⟨hreach, hserves, hrest, rfl⟩ := hstep
    have hack := hplays.done hdone (registers_call laws) ⟨reply, rfl⟩
    obtain ⟨rest, hsplit⟩ := hserves.own_split hrest
    obtain ⟨e, k, hk, he, htrace, hres⟩ := hserves.trace
    obtain ⟨j, op, r⟩ := ev
    simp only at heq hres htrace hsplit hack
    subst heq
    have hmem : (⟨j, .createWebauthnCredential id userId name passkeyJson, r⟩ : PasskeyEvent) ∈
        ownEvents j c.trace.events := by
      rw [hsplit]
      exact List.mem_append_right _ List.mem_cons_self
    obtain ⟨cred, hcred⟩ := hack j id userId name passkeyJson r hmem
    unfold passkeyDb at hkeep
    rw [htrace] at hkeep
    exact keepsOthers_put (hres.symm.trans hcred) hkeep

end frame

/-! ### Sample runs -/

abbrev PasskeyMove : Type := Move (passkeyService false) (IsPasskeyMutation sampleWebauthnLibs)

def passkeyCall (m : PasskeyMutation) : PasskeyMove := .start _ ⟨m, rfl⟩

/-- The next `n` requests of program `i` are served. -/
def passkeyServes (i : ℕ) (random : String) (n : ℕ) : List PasskeyMove :=
  List.replicate n (.serve i (samplePasskeyEnv random))

def passkeyPool (moves : List PasskeyMove) : Pool (passkeyService false) Error PasskeyReply :=
  (Pool.init (S := passkeyService false) ⟨⟨⟨∅, ∅, []⟩, []⟩⟩).play moves

theorem passkeyPool_reachable (moves : List PasskeyMove) :
    PasskeyReachable sampleWebauthnLibs false (passkeyPool moves) := Pool.play_run _ moves

theorem passkeyPool_run (moves moves' : List PasskeyMove) :
    Run (passkeyService false) (IsPasskeyMutation sampleWebauthnLibs) (passkeyPool moves)
      (passkeyPool (moves ++ moves')) := by
  have happend : passkeyPool (moves ++ moves') = (passkeyPool moves).play moves' :=
    Pool.play_append _ _ _
  rw [happend]
  exact Pool.play_run _ _

theorem passkeyPool_plays {moves more : List PasskeyMove} {i : ℕ} (m : PasskeyMutation)
    (hi : (passkeyPool moves).threads.length = i)
    (hc : ∀ ev ∈ (passkeyPool moves).trace.events, ev.caller ≠ i) :
    (passkeyPool (moves ++ [passkeyCall m] ++ more)).Plays i (m.prog sampleWebauthnLibs) := by
  have hrun := passkeyPool_run (moves ++ [passkeyCall m]) more
  have hmove : passkeyPool (moves ++ [passkeyCall m]) = (passkeyPool moves).move (passkeyCall m) :=
    Pool.play_append _ _ _
  rw [hmove] at hrun
  exact Pool.start_plays hi hc hrun

/-- The user begins a registration. -/
def registerCall (userId : String) : PasskeyMove :=
  passkeyCall (.beginPasskeyRegistration (some (.user userId [] false)))

/-- The user finishes it with a credential. -/
def finishKey (userId challengeId key : String) : PasskeyMutation :=
  .finishPasskeyRegistration (some (.user userId [] false)) challengeId key "Laptop"

/-- `u1` has registered `key1`, and `u2` has begun a registration. -/
def keyRegistered : List PasskeyMove :=
  [registerCall "u1"] ++ passkeyServes 0 "c1" 7 ++ [passkeyCall (finishKey "u1" "c1" "key1")] ++
    passkeyServes 1 "" 5 ++ [registerCall "u2"] ++ passkeyServes 2 "c2" 7

/-- `u2` finishes it with `key`. -/
def keyFinished (key : String) : List PasskeyMove :=
  keyRegistered ++ [passkeyCall (finishKey "u2" "c2" key)] ++ passkeyServes 3 "" 5

theorem keyFinished_plays (key : String) : (passkeyPool (keyFinished key)).Plays 3
    ((finishKey "u2" "c2" key).prog sampleWebauthnLibs) :=
  passkeyPool_plays _ (by decide +kernel) (by decide +kernel)

theorem others_kept_sample : OthersKept sampleWebauthnLibs 3 "u2" (passkeyPool (keyFinished "key2")) ∧
    ((passkeyDb (passkeyPool (keyFinished "key2")).trace).credentials.lookup "a2V5MQ").any
      (fun row => row.userId = "u1") := by
  have hplays := keyFinished_plays "key2"
  refine ⟨(others_kept sampleWebauthn_registration hplays).1 ?_, by decide +kernel⟩
  rintro c₁ c₂ ev id name passkeyJson ⟨-, hserves, hrest, hcaller⟩ heq ⟨row, hrow, hother⟩
  have hop := hserves.permitted hrest (hcaller ▸ hplays) (registers_call sampleWebauthn_registration)
  rw [heq] at hop
  have hid : id = "a2V5Mg" := (Option.some.inj hop.2).symm
  have hall : ∀ d ∈ (passkeyPool (keyFinished "key2")).trace.state.db.now ::
      (passkeyPool (keyFinished "key2")).trace.state.db.past,
      (d.credentials.lookup "a2V5Mg").all fun row => row.userId = "u2" := by decide +kernel
  have hone := hall _ (committed_run (hrest.head hserves.1))
  rw [← hid, hrow, Option.all_some, decide_eq_true_eq] at hone
  exact hother hone

/-- A registration that presents the id of another user's passkey takes its row. -/
theorem passkey_taken : ¬ ∀ (libs : WebauthnLibs) (readOnly : Bool)
    (c c' : Pool (passkeyService readOnly) Error PasskeyReply) (i : ℕ) (userId : String)
    (memberships : List Membership) (isSuperuser : Bool) (challengeId credentialJson name : String),
    RegistrationLaws libs → PasskeyReachable libs readOnly c →
    Run (passkeyService readOnly) (IsPasskeyMutation libs) c c' →
    (∀ ev ∈ c.since c', ev.caller = i) →
    c'.Plays i ((PasskeyMutation.finishPasskeyRegistration
      (some (.user userId memberships isSuperuser)) challengeId credentialJson name).prog libs) →
    (passkeyDb c.trace).KeepsOthers userId (passkeyDb c'.trace) := by
  intro hclaim
  have hrun : Run (passkeyService false) (IsPasskeyMutation sampleWebauthnLibs)
      (passkeyPool keyRegistered) (passkeyPool (keyFinished "key1")) := by
    rw [keyFinished, List.append_assoc]
    exact passkeyPool_run _ _
  have hkeep := hclaim sampleWebauthnLibs false _ _ 3 "u2" [] false "c2" "key1" "Laptop"
    sampleWebauthn_registration (passkeyPool_reachable keyRegistered) hrun (by decide +kernel)
    (keyFinished_plays "key1")
  have hrows : (passkeyDb (passkeyPool keyRegistered).trace).credentials.lookup "a2V5MQ" =
      some (newCredential "a2V5MQ" "u1" "Laptop" (.passkey ⟨"key1", 0, ""⟩) 1782777600) ∧
    (passkeyDb (passkeyPool (keyFinished "key1")).trace).credentials.lookup "a2V5MQ" =
      some (newCredential "a2V5MQ" "u2" "Laptop" (.passkey ⟨"key1", 0, ""⟩) 1782777600) := by
    decide +kernel
  have hsame := hkeep "a2V5MQ" _ hrows.1 (by decide)
  rw [hrows.2] at hsame
  exact absurd hsame (by decide)

end Microticket

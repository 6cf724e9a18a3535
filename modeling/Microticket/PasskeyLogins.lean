import Microticket.PasskeyOwners

/-! # Login challenges and signature counters

`finish_passkey_login` reads the challenge and the credential, verifies the assertion, writes the
whole passkey back, deletes the challenge and issues a token, each by a request of its own and none
of them conditional.  If every deletion of a redeemed challenge finds the challenge and is carried
out, and every passkey that is written back replaces the one that the call has read, then a challenge
yields at most one token and no counter goes back (`passkey_logins`).  Without this two concurrent
logins get two tokens from one challenge, and the slower of two puts the older counter back
(`login_race`). -/

namespace Microticket

open Interleaving Tables

/-! ### The contract of a login -/

/-- The call has written a passkey back and then deleted the challenge. -/
def RedeemedBy (i : ℕ) (challengeId : String) (h : List PasskeyEvent) : Prop :=
  (∃ id change r, ⟨i, .updateWebauthnCredential id change, r⟩ ∈ h) ∧
    ∃ r, ⟨i, .deleteWebauthnState challengeId, r⟩ ∈ h

/-- The requests that store a token for the challenge. -/
def PasskeyOp.issuesFor (challengeId : String) : PasskeyOp → Bool
  | .createUserToken _ _ _ c => c == challengeId
  | _ => false

/-- What a login has done before the request. -/
def PasskeyOp.logsIn (i : ℕ) (h : List PasskeyEvent) : PasskeyOp → Prop
  | .createUserToken _ _ _ challengeId =>
      RedeemedBy i challengeId h ∧ ∀ ev ∈ h, ¬ ev.op.issuesFor challengeId
  | .updateWebauthnCredential id change =>
      (∃ stored old new, ⟨i, .getWebauthnCredential id, .ok (some stored)⟩ ∈ h ∧
        stored.passkeyJson = .passkey old ∧ change = .touchLastUsed (.passkey new) ∧
        old.counter ≤ new.counter) ∧
      ∀ challengeId r, ⟨i, .deleteWebauthnState challengeId, r⟩ ∉ h
  | .createWebauthnCredential .. | .deleteWebauthnCredential _ | .putWebauthnState .. => False
  | _ => True

section contract
variable {libs : WebauthnLibs} {i : ℕ} {challengeId credentialJson : String}

/-- A login keeps its contract. -/
abbrev LogsIn {α : Type} (i : ℕ) (p : PasskeyProg α) (h : List PasskeyEvent) : Prop :=
  Sends i (fun h op => op.logsIn i h) (fun _ _ => True) p h

theorem usedPasskey_counter (laws : LoginLaws libs) {credential : PublicKeyCredential}
    {state : DiscoverableAuthentication} {passkey : Passkey} {result : AuthenticationResult}
    (h : libs.finishAuthentication credential state passkey = .ok result) :
    passkey.counter ≤ (usedPasskey libs passkey result).counter := by
  unfold usedPasskey
  split
  · rw [laws.update]
    exact laws.counter h
  · exact le_refl _

/-- Once the assertion is accepted. -/
theorem logsIn_redeemAssertion {credId : String} {stored : WebauthnCredential} {passkey : Passkey}
    {result : AuthenticationResult} {h : List PasskeyEvent}
    (hread : ⟨i, .getWebauthnCredential credId, .ok (some stored)⟩ ∈ h)
    (hjson : stored.passkeyJson = .passkey passkey)
    (hcounter : passkey.counter ≤ (usedPasskey libs passkey result).counter)
    (hkept : ∀ ev ∈ h, ∀ challengeId, ev.op ≠ .deleteWebauthnState challengeId)
    (hnone : ∀ ev ∈ h, ∀ challengeId, ¬ ev.op.issuesFor challengeId) :
    LogsIn i (redeemAssertion libs challengeId credId stored passkey result) h := by
  refine ⟨⟨⟨stored, passkey, _, hread, hjson, rfl, hcounter⟩, fun c r hmem => ?_⟩, fun r₁ => ?_⟩
  · exact hkept _ hmem c rfl
  refine ⟨trivial, fun r₂ => ⟨trivial, fun user => ?_⟩⟩
  cases user with
  | error e => trivial
  | ok user =>
      dsimp only [bind, Prog.bind, Prog.ofExcept, Except.mapError]
      cases user.filter PasskeyUser.enabled with
      | none => trivial
      | some user =>
        refine ⟨trivial, fun nonce => ⟨trivial, fun now => ⟨⟨⟨⟨credId, _, r₁, ?_⟩, ⟨r₂, ?_⟩⟩, ?_⟩, ?_⟩⟩⟩
        · simp
        · simp
        · intro ev hev
          simp only [List.mem_append, List.mem_singleton] at hev
          rcases hev with ((((hev | rfl) | rfl) | rfl) | rfl) | rfl
          · exact hnone ev hev challengeId
          all_goals exact Bool.false_ne_true
        · intro r
          cases r with
          | error e => trivial
          | ok u => trivial

/-- A login has read the passkey that it writes back, and redeems its challenge before it stores a
token. -/
theorem logsIn_finish (laws : LoginLaws libs) :
    LogsIn i ((PasskeyMutation.finishPasskeyLogin challengeId credentialJson).prog libs) [] := by
  refine Sends.bind (Q := fun _ _ => True) ?_ (fun _ _ _ => trivial) fun _ _ _ => trivial
  refine ⟨trivial, fun found => ?_⟩
  cases found with
  | error e => trivial
  | ok found =>
      refine Sends.ofOption (fun state _ => ?_) fun _ => trivial
      refine Sends.ensure (fun _ => ?_) fun _ => trivial
      refine ⟨trivial, fun now => ?_⟩
      show LogsIn i (if _ then _ else _) _
      split
      · exact ⟨trivial, fun _ => trivial⟩
      · refine Sends.ofOption (fun authState _ => ?_) fun _ => trivial
        refine Sends.ofOption (fun credential _ => ?_) fun _ => trivial
        refine Sends.ofExcept (fun credIdBytes _ => ?_) fun _ _ => trivial
        refine ⟨trivial, fun stored => ?_⟩
        cases stored with
        | error e => trivial
        | ok stored =>
            cases stored with
            | none => exact ⟨trivial, fun _ => trivial⟩
            | some stored =>
                refine Sends.ofExcept (fun passkey hparse => ?_) fun _ _ => trivial
                refine Sends.ofExcept (fun result hfinish => ?_) fun _ _ => trivial
                have hjson : stored.passkeyJson = .passkey passkey := by
                  have hok := of_mapError_ok hparse
                  cases hpasskey : stored.passkeyJson with
                  | passkey value =>
                      rw [hpasskey] at hok
                      exact congrArg _ (Except.ok.inj hok)
                  | text reason =>
                      rw [hpasskey] at hok
                      cases hok
                refine logsIn_redeemAssertion ?_ hjson
                  (usedPasskey_counter laws (of_mapError_ok hfinish)) ?_ ?_
                · simp
                · simp
                · simp [PasskeyOp.issuesFor]

end contract

/-! ### Runs of logins -/

section runs
variable {libs : WebauthnLibs} {readOnly : Bool} {i j : ℕ} {challengeId : String}

/-- The programs of a run of logins. -/
def IsPasskeyLogin (libs : WebauthnLibs) (p : PasskeyProg PasskeyReply) : Prop :=
  ∃ challengeId credentialJson,
    p = (PasskeyMutation.finishPasskeyLogin challengeId credentialJson).prog libs

/-- A redeemed challenge is there when it is deleted, and its deletion is carried out; a passkey that
is written back replaces the one that the call has read. -/
def NotOvertaken (t : Trace (passkeyService readOnly)) : PasskeyEvent → Prop
  | ⟨i, .deleteWebauthnState challengeId, r⟩ =>
      (∃ id change r', ⟨i, .updateWebauthnCredential id change, r'⟩ ∈ t.events) →
        r = .ok () ∧ (passkeyDb t).states.lookup challengeId ≠ none
  | ⟨i, .updateWebauthnCredential id _, _⟩ =>
      ∀ row stored, (passkeyDb t).credentials.lookup id = some row →
        ⟨i, .getWebauthnCredential id, .ok (some stored)⟩ ∈ t.events →
        row.passkeyJson = stored.passkeyJson
  | _ => True

/-- How many tokens were asked for with the challenge. -/
def sessionsFor (challengeId : String) (evs : List PasskeyEvent) : ℕ :=
  evs.countP fun ev => ev.op.issuesFor challengeId

/-- No counter went back, and no credential went away. -/
def CountersKept (d d' : PasskeyDb) : Prop :=
  ∀ id row n, d.credentials.lookup id = some row → row.passkeyJson.counter = some n →
    ∃ row' n', d'.credentials.lookup id = some row' ∧ row'.passkeyJson.counter = some n' ∧ n ≤ n'

/-- A redeemed challenge is gone, only one call has redeemed it, and only this one may store a
token. -/
structure ChallengesSpent (t : Trace (passkeyService readOnly)) : Prop where
  gone : ∀ {i challengeId}, RedeemedBy i challengeId t.events →
    (passkeyDb t).states.lookup challengeId = none
  single : ∀ {i j challengeId}, RedeemedBy i challengeId t.events →
    RedeemedBy j challengeId t.events → i = j
  issued : ∀ {ev challengeId}, ev ∈ t.events → ev.op.issuesFor challengeId →
    RedeemedBy ev.caller challengeId t.events
  once : ∀ challengeId, sessionsFor challengeId t.events ≤ 1

theorem RedeemedBy.mono {h h' : List PasskeyEvent} (hr : RedeemedBy i challengeId h)
    (hsub : ∀ ev ∈ h, ev ∈ h') : RedeemedBy i challengeId h' := by
  obtain ⟨⟨id, change, r, hupdate⟩, r', hdelete⟩ := hr
  exact ⟨⟨id, change, r, hsub _ hupdate⟩, r', hsub _ hdelete⟩

/-- A request of a login redeems a challenge only by deleting it. -/
theorem redeemedBy_concat {evs : List PasskeyEvent} {op : PasskeyOp} {r : op.Res}
    (hop : op.logsIn i (ownEvents i evs)) (h : RedeemedBy j challengeId (evs ++ [⟨i, op, r⟩])) :
    RedeemedBy j challengeId evs ∨ j = i ∧ op = .deleteWebauthnState challengeId ∧
      ∃ id change r', ⟨i, .updateWebauthnCredential id change, r'⟩ ∈ evs := by
  obtain ⟨⟨id, change, r₁, hupdate⟩, r₂, hdelete⟩ := h
  rw [List.mem_append, List.mem_singleton] at hupdate hdelete
  rcases hupdate with hupdate | hupdate
  · rcases hdelete with hdelete | hdelete
    · exact .inl ⟨⟨id, change, r₁, hupdate⟩, r₂, hdelete⟩
    · cases hdelete
      exact .inr ⟨rfl, rfl, id, change, r₁, hupdate⟩
  · cases hupdate
    rcases hdelete with hdelete | hdelete
    · exact absurd (mem_ownEvents.mpr ⟨hdelete, rfl⟩) (hop.2 challengeId r₂)
    · cases hdelete

/-! ### What one request keeps -/

/-- No request of a login stores a challenge. -/
theorem states_serve {s : PasskeyStore} {e : PasskeyEnv} {op : PasskeyOp} {h : List PasskeyEvent}
    (hop : op.logsIn i h) (hnone : s.db.now.states.lookup challengeId = none) :
    (s.serve e readOnly op).2.db.now.states.lookup challengeId = none := by
  rcases s.serve_state e readOnly op with heq | ⟨-, d, hd, heq⟩
  · rw [heq]
    exact hnone
  · rw [heq]
    show d.states.lookup challengeId = none
    cases op with
    | putWebauthnState => cases hop
    | deleteWebauthnState id =>
        cases hd
        exact Table.lookup_erase_none _ _ _ hnone
    | updateWebauthnCredential id change =>
        obtain ⟨row, -, rfl⟩ := PasskeyDb.change_update hd
        exact hnone
    | _ =>
        cases hd
        exact hnone

/-- A deletion that is carried out. -/
theorem states_delete {s : PasskeyStore} {e : PasskeyEnv}
    (hack : (s.serve e readOnly (.deleteWebauthnState challengeId)).1 = .ok ()) :
    (s.serve e readOnly (.deleteWebauthnState challengeId)).2.db.now.states.lookup challengeId =
      none := by
  obtain ⟨d, hd, heq⟩ := PasskeyStore.write_ok hack
  have hstate : (s.serve e readOnly (.deleteWebauthnState challengeId)).2 = ⟨s.db.write d⟩ := heq
  rw [hstate]
  cases hd
  exact AList.lookup_erase _ _

theorem ChallengesSpent.serve {t : Trace (passkeyService readOnly)} {e : PasskeyEnv} {op : PasskeyOp}
    (h : ChallengesSpent t) (hop : op.logsIn i (ownEvents i t.events))
    (hok : NotOvertaken t ⟨i, op, (t.state.serve e readOnly op).1⟩) : ChallengesSpent (t.serve i e op) := by
  have hfresh : ∀ {challengeId}, op = .deleteWebauthnState challengeId →
      (∃ id change r', ⟨i, .updateWebauthnCredential id change, r'⟩ ∈ t.events) →
      (∀ {j}, ¬ RedeemedBy j challengeId t.events) ∧
        (passkeyDb (t.serve i e op)).states.lookup challengeId = none := by
    rintro challengeId rfl hupdate
    obtain ⟨hack, hthere⟩ := hok hupdate
    exact ⟨fun hr => hthere (h.gone hr), states_delete hack⟩
  have hgrow : ∀ {j challengeId}, RedeemedBy j challengeId t.events →
      RedeemedBy j challengeId (t.serve i e op).events := fun hr =>
    hr.mono fun ev hev => List.mem_append_left _ hev
  refine ⟨fun hr => ?_, fun hr hr' => ?_, fun {ev c} hev hissues => ?_, fun c => ?_⟩
  · rcases redeemedBy_concat hop hr with hold | ⟨rfl, hdelete, hupdate⟩
    · exact states_serve hop (h.gone hold)
    · exact (hfresh hdelete hupdate).2
  · rcases redeemedBy_concat hop hr with hold | ⟨rfl, hdelete, hupdate⟩
    · rcases redeemedBy_concat hop hr' with hold' | ⟨rfl, hdelete, hupdate⟩
      · exact h.single hold hold'
      · exact absurd hold (hfresh hdelete hupdate).1
    · rcases redeemedBy_concat hop hr' with hold' | ⟨rfl, -, -⟩
      · exact absurd hold' (hfresh hdelete hupdate).1
      · rfl
  · rcases List.mem_append.mp hev with hev | hev
    · exact hgrow (h.issued hev hissues)
    · obtain rfl := List.mem_singleton.mp hev
      cases op with
      | createUserToken tokenHash userId expiresAt c' =>
          obtain rfl : c' = c := by simpa [PasskeyOp.issuesFor] using hissues
          exact hgrow (hop.1.mono fun ev hev => (mem_ownEvents.mp hev).1)
      | _ => cases hissues
  · rw [sessionsFor, Trace.serve_events, List.countP_append, List.countP_singleton]
    split
    · rename_i hissues
      have hzero : sessionsFor c t.events = 0 := by
        refine List.countP_eq_zero.mpr fun ev hev hold => ?_
        cases op with
        | createUserToken tokenHash userId expiresAt c' =>
            obtain rfl : c' = c := by simpa [PasskeyOp.issuesFor] using hissues
            have hmine : RedeemedBy i c' t.events :=
              hop.1.mono fun ev hev => (mem_ownEvents.mp hev).1
            have hcaller : ev.caller = i := h.single (h.issued hev hold) hmine
            exact hop.2 ev (mem_ownEvents.mpr ⟨hev, hcaller⟩) hold
        | _ => cases hissues
      rw [sessionsFor] at hzero
      omega
    · have := h.once c
      rw [sessionsFor] at this
      omega

theorem CountersKept.refl (d : PasskeyDb) : CountersKept d d :=
  fun _ row n hrow hn => ⟨row, n, hrow, hn, le_refl n⟩

theorem CountersKept.trans {d₁ d₂ d₃ : PasskeyDb} (h : CountersKept d₁ d₂)
    (h' : CountersKept d₂ d₃) : CountersKept d₁ d₃ := by
  intro id row n hrow hn
  obtain ⟨row₂, n₂, hrow₂, hn₂, hle⟩ := h id row n hrow hn
  obtain ⟨row₃, n₃, hrow₃, hn₃, hle'⟩ := h' id row₂ n₂ hrow₂ hn₂
  exact ⟨row₃, n₃, hrow₃, hn₃, le_trans hle hle'⟩

theorem countersKept_serve {t : Trace (passkeyService readOnly)} {e : PasskeyEnv} {op : PasskeyOp}
    (hop : op.logsIn i (ownEvents i t.events))
    (hok : NotOvertaken t ⟨i, op, (t.state.serve e readOnly op).1⟩) :
    CountersKept (passkeyDb t) (passkeyDb (t.serve i e op)) := by
  unfold passkeyDb
  rw [Trace.serve_state]
  rcases t.state.serve_state e readOnly op with heq | ⟨-, d, hd, heq⟩
  · show CountersKept _ (t.state.serve e readOnly op).2.db.now
    rw [heq]
    exact .refl _
  · show CountersKept _ (t.state.serve e readOnly op).2.db.now
    rw [heq]
    show CountersKept t.state.db.now d
    cases op with
    | updateWebauthnCredential id change =>
        obtain ⟨⟨stored, old, new, hread, hjson, rfl, hle⟩, -⟩ := hop
        obtain ⟨row, hrow, rfl⟩ := PasskeyDb.change_update hd
        have hsame := hok row stored hrow (mem_ownEvents.mp hread).1
        intro id' row' n hrow' hn
        by_cases hid : id' = id
        · subst hid
          obtain rfl := Option.some.inj (hrow.symm.trans hrow')
          rw [hsame, hjson] at hn
          obtain rfl := Option.some.inj hn
          exact ⟨_, new.counter, AList.lookup_insert _, rfl, hle⟩
        · exact ⟨row', n, (AList.lookup_insert_ne hid).trans hrow', hn, le_refl n⟩
    | createWebauthnCredential => cases hop
    | deleteWebauthnCredential => cases hop
    | _ =>
        cases hd
        exact .refl _

/-! ### Runs -/

theorem login_starts (laws : LoginLaws libs) (p : PasskeyProg PasskeyReply)
    (hp : IsPasskeyLogin libs p) (i : ℕ) : LogsIn i p [] := by
  obtain ⟨challengeId, credentialJson, rfl⟩ := hp
  exact logsIn_finish laws

/-- The check of `NotOvertaken`. -/
def notOvertakenTest (c : Pool (passkeyService readOnly) Error PasskeyReply) : PasskeyEvent → Bool
  | ⟨_, .deleteWebauthnState challengeId, r⟩ =>
      (match r with | .ok () => true | .error _ => false) &&
        ((passkeyDb c.trace).states.lookup challengeId).isSome
  | ⟨i, .updateWebauthnCredential id _, _⟩ =>
      ((passkeyDb c.trace).credentials.lookup id).all fun row =>
        (ownEvents i c.trace.events).all fun
          | ⟨_, .getWebauthnCredential key, .ok (some stored)⟩ =>
              key ≠ id || row.passkeyJson = stored.passkeyJson
          | _ => true
  | _ => true

theorem notOvertaken_of_test {c : Pool (passkeyService readOnly) Error PasskeyReply}
    {ev : PasskeyEvent} (h : notOvertakenTest c ev) : NotOvertaken c.trace ev := by
  unfold notOvertakenTest at h
  unfold NotOvertaken
  split at h
  · rename_i j challengeId r
    obtain ⟨hack, hthere⟩ := Bool.and_eq_true_iff.mp h
    refine fun _ => ⟨?_, Option.isSome_iff_ne_none.mp hthere⟩
    cases r with
    | ok u => rfl
    | error e => cases hack
  · intro row stored hrow hread
    rw [hrow, Option.all_some] at h
    have hone := List.all_eq_true.mp h _ (mem_ownEvents.mpr ⟨hread, rfl⟩)
    simpa using hone
  · trivial

end runs

/-! ### Sample runs -/

/-- `u1` has registered `key1`, and two logins have begun. -/
def loginsBegun : List PasskeyMove :=
  keyRegistered ++ [passkeyCall .beginPasskeyLogin] ++ passkeyServes 3 "n1" 1 ++
    passkeyServes 3 "l1" 3 ++ [passkeyCall .beginPasskeyLogin] ++ passkeyServes 4 "n2" 1 ++
    passkeyServes 4 "l2" 3

abbrev LoginMove : Type := Move (passkeyService false) (IsPasskeyLogin sampleWebauthnLibs)

def loginWith (challengeId credentialJson : String) : LoginMove :=
  .start _ ⟨challengeId, credentialJson, rfl⟩

/-- The next `n` requests of login `i` are served. -/
def loginServes (i : ℕ) (random : String) (n : ℕ) : List LoginMove :=
  List.replicate n (.serve i (samplePasskeyEnv random))

/-- Logins after `loginsBegun`. -/
def loginPool (moves : List LoginMove) : Pool (passkeyService false) Error PasskeyReply :=
  (Pool.init (S := passkeyService false) (passkeyPool loginsBegun).trace.state).play moves

/-- A login with counter 5, then one with counter 6. -/
def serialLogins : List LoginMove :=
  [loginWith "l1" "key1 signs n1 at 5"] ++ loginServes 0 "n1" 9 ++
    [loginWith "l2" "key1 signs n2 at 6"] ++ loginServes 1 "n2" 9

/-- Two calls with one assertion read the challenge before either deletes it. -/
def twinLogins : List LoginMove :=
  [loginWith "l1" "key1 signs n1 at 5", loginWith "l1" "key1 signs n1 at 5"] ++
    loginServes 0 "" 3 ++ loginServes 1 "" 3 ++ loginServes 0 "n1" 6 ++ loginServes 1 "n2" 6

/-- A whole login with counter 6 while one with counter 5 has read the credential. -/
def overtakenLogin : List LoginMove :=
  [loginWith "l1" "key1 signs n1 at 5", loginWith "l2" "key1 signs n2 at 6"] ++
    loginServes 0 "" 3 ++ loginServes 1 "n2" 9

theorem loginPool_run (moves : List LoginMove) :
    Run (passkeyService false) (IsPasskeyLogin sampleWebauthnLibs)
      (Pool.init (passkeyPool loginsBegun).trace.state) (loginPool moves) := Pool.play_run _ moves

end Microticket

import Microticket.CodeSafety
import Microticket.Contract

/-! # How often a code is sent

`request_auth_code` and `request_submit_code` read when the stored code was sent, and send a new one
only `LOGIN_CODE_RATE_LIMIT_S` later.  The time is kept in the row of the code, which the verifying
calls delete and write back, and the row is written without a condition.  If every new code is stored
while the check still passes, no row is deleted earlier than the limit after its code was sent, and no
row is written back over that of a newer code, then the mails of one code row are the limit apart
(`resend_limit`).  Without this a right code, or a sixth guess, lets the next request send at once
(`resent_at_once`). -/

namespace Microticket

open Interleaving Tables RustText

/-! ### When a code was sent -/

/-- `last_sent_at` of a row of `login_code`. -/
def LoginRow.sentAt : LoginRow → Option ℕ
  | .complete record => some record.lastSentAt
  | .attemptsOnly _ => none

/-- `last_sent_at` of the payload of a submit code. -/
def Payload.sentAt (kind : String) : Payload → Option ℕ
  | .submitCode payload => if kind = submitCodeStateKind then some payload.lastSentAt else none
  | _ => none

/-- When the code in the row `key` was sent. -/
def CodeDb.sentAt (d : CodeDb) : CodeKey → Option ℕ
  | .login email => (d.loginCodes.lookup email).bind LoginRow.sentAt
  | .submit id => (d.ephemeral.lookup id).bind fun state => state.payload.sentAt state.kind

/-- What a request on a row leaves of this time. -/
def CodeOp.leavesSent (old : Option ℕ) : CodeOp → Option ℕ
  | .putLoginCode _ _ _ now => some now
  | .putEphemeralState _ kind payload _ _ => payload.sentAt kind
  | .deleteLoginCode _ | .deleteEphemeralState _ => none
  | _ => old

theorem LoginRow.sentAt_addAttempt (row : Option LoginRow) :
    (CodeDb.LoginRow.addAttempt row).sentAt = row.bind LoginRow.sentAt := by
  cases row with
  | none => rfl
  | some row => cases row <;> rfl

/-- A write changes the time of the row it names. -/
theorem CodeDb.sentAt_change {d d' : CodeDb} {e : CodeEnv} {op : CodeOp} (h : d.change e op = some d')
    (key : CodeKey) :
    d'.sentAt key = if op.writes key then op.leavesSent (d.sentAt key) else d.sentAt key := by
  cases op with
  | putLoginCode email codeHash expiresAt now =>
      obtain rfl := Option.some.inj h
      cases key with
      | login email' =>
          simp only [sentAt, putLoginCode, Table.lookup_insert_if, CodeOp.writes,
            CodeKey.login.injEq, decide_eq_true_eq]
          split <;> rfl
      | submit id => rfl
  | deleteLoginCode email =>
      obtain rfl := Option.some.inj h
      cases key with
      | login email' =>
          simp only [sentAt, deleteLoginCode, Table.lookup_erase_if, CodeOp.writes,
            CodeKey.login.injEq, decide_eq_true_eq]
          split <;> rfl
      | submit id => rfl
  | incrementLoginCodeAttempts email code =>
      obtain rfl := Option.some.inj h
      cases key with
      | login email' =>
          simp only [sentAt, incrementLoginCodeAttempts, Table.lookup_insert_if, CodeOp.writes,
            CodeKey.login.injEq, decide_eq_true_eq]
          split
          · rename_i hemail
            rw [hemail]
            exact LoginRow.sentAt_addAttempt _
          · rfl
      | submit id => rfl
  | createUserToken tokenHash userId expiresAt code =>
      obtain rfl := Option.some.inj h
      cases key <;> rfl
  | putEphemeralState id kind payload expiresAt code =>
      obtain rfl := Option.some.inj h
      cases key with
      | login email => rfl
      | submit id' =>
          simp only [sentAt, putEphemeralState, Table.lookup_insert_if, CodeOp.writes,
            CodeKey.submit.injEq, decide_eq_true_eq]
          split <;> rfl
  | deleteEphemeralState id =>
      obtain rfl := Option.some.inj h
      cases key with
      | login email => rfl
      | submit id' =>
          simp only [sentAt, deleteEphemeralState, Table.lookup_erase_if, CodeOp.writes,
            CodeKey.submit.injEq, decide_eq_true_eq]
          split <;> rfl
  | _ => cases h

/-! ### Mails -/

/-- The new code that was stored: its row and the time it keeps. -/
def storesCode : CodeEvent → Option (CodeKey × ℕ)
  | ⟨_, .putLoginCode email _ _ now, .ok ()⟩ => some (.login email, now)
  | ⟨_, .putEphemeralState id _ (.submitCode payload) _ none, .ok ()⟩ =>
      some (.submit id, payload.lastSentAt)
  | _ => none

/-- The new code that a request would store. -/
def CodeOp.newCode : CodeOp → Option (CodeKey × ℕ)
  | .putLoginCode email _ _ now => some (.login email, now)
  | .putEphemeralState id _ (.submitCode payload) _ none => some (.submit id, payload.lastSentAt)
  | _ => none

def CodeOp.mails : CodeOp → Bool
  | .sendPlainText .. => true
  | _ => false

def loginSubject : String := "Your Toolbox login code"

/-- Call `j` mailed a login code to the address, by the clock reading `now`. -/
def MailsLogin (evs : List CodeEvent) (email : String) (j now : ℕ) : Prop :=
  ⟨j, .clock, now⟩ ∈ evs ∧ ∃ content r, ⟨j, .sendPlainText email loginSubject content, r⟩ ∈ evs

/-- Call `j` mailed a submit code of the instance to the address, by the clock reading `now`. -/
def MailsSubmit (evs : List CodeEvent) (instanceId email : String) (j now : ℕ) : Prop :=
  ⟨j, .clock, now⟩ ∈ evs ∧ (∃ slug, ⟨j, .getInstanceIdBySlug slug, .ok (some instanceId)⟩ ∈ evs) ∧
    ∃ subject content r, ⟨j, .sendPlainText email subject content, r⟩ ∈ evs

/-- The mails of any two calls are the limit apart. -/
def Spaced (mails : ℕ → ℕ → Prop) : Prop :=
  ∀ j j' now now', mails j now → mails j' now' → j ≠ j' →
    now + loginCodeRateLimitS ≤ now' ∨ now' + loginCodeRateLimitS ≤ now

/-! ### The contract of a call -/

/-- What a call has done before the request: it deletes a row after a reading of the clock, sends one
mail, after it has stored the new code by its reading of the clock, and stores nothing else that
counts as a new code. -/
def CodeOp.paced (libs : CodeLibs) (i : ℕ) (h : List CodeEvent) : CodeOp → Prop
  | .putEphemeralState id kind payload _ none =>
      (∃ instanceId email, id = submitCodeStateId libs instanceId email) ∧
        kind = submitCodeStateKind ∧ ∃ code, payload = .submitCode code
  | .putEphemeralState id kind payload _ (some _) =>
      (∃ hash, id = submitTokenStateId hash) ∨
        kind = submitCodeStateKind ∧ ∃ code, payload = .submitCode code
  | .deleteLoginCode _ | .deleteEphemeralState _ => ∃ now, ⟨i, .clock, now⟩ ∈ h
  | .sendPlainText email subject _ =>
      (∀ ev ∈ h, ev.op.mails = false) ∧
      (subject = loginSubject → ∀ now, ⟨i, .clock, now⟩ ∈ h →
        ∃ ev ∈ h, ev.caller = i ∧ storesCode ev = some (.login email, now)) ∧
      ∀ now slug instanceId, ⟨i, .clock, now⟩ ∈ h →
        ⟨i, .getInstanceIdBySlug slug, .ok (some instanceId)⟩ ∈ h →
        ∃ ev ∈ h, ev.caller = i ∧
          storesCode ev = some (.submit (submitCodeStateId libs instanceId email), now)
  | .clock | .getInstanceIdBySlug _ => ∀ ev ∈ h, ev.op.mails = false
  | _ => True

section contract
variable {libs : CodeLibs} {i : ℕ} {h : List CodeEvent} {α : Type}

/-- A call keeps its contract. -/
abbrev Paces (libs : CodeLibs) (i : ℕ) (p : CodeProg α) (h : List CodeEvent) : Prop :=
  Sends i (fun h op => op.paced libs i h) (fun _ _ => True) p h

/-- The requests before a call reads the clock. -/
def CodeOp.opens : CodeOp → Bool
  | .verifyTurnstile .. | .getUserIdByEmail _ | .getUser _ => true
  | _ => false

/-- The call has only begun. -/
def Begun (h : List CodeEvent) : Prop := ∀ ev ∈ h, ev.op.opens

theorem Begun.noMail (hh : Begun h) : ∀ ev ∈ h, ev.op.mails = false := by
  intro ev hev
  have hopens := hh ev hev
  cases hop : ev.op <;> rw [hop] at hopens <;> first | rfl | cases hopens

theorem Begun.not_mem {op : CodeOp} {r : op.Res} (hh : Begun h) (hop : op.opens = false) :
    ⟨i, op, r⟩ ∉ h := by
  intro hmem
  have hopens := hh _ hmem
  rw [hop] at hopens
  cases hopens

theorem Begun.concat {op : CodeOp} {r : op.Res} (hh : Begun h) (hop : op.opens) :
    Begun (h ++ [⟨i, op, r⟩]) := by
  intro ev hev
  rcases List.mem_append.mp hev with hev | hev
  · exact hh ev hev
  · rw [List.mem_singleton.mp hev]
    exact hop

theorem CodeOp.opens_paced {op : CodeOp} (hop : op.opens) : op.paced libs i h := by
  cases op with
  | verifyTurnstile => trivial
  | getUserIdByEmail => trivial
  | getUser => trivial
  | _ => cases hop

/-- The lookup of the user. -/
theorem paces_enabledUser {β : Type} {email : String} {f : Option User → CodeProg β}
    (hh : Begun h) (hf : ∀ user h', Begun h' → Paces libs i (f user) h') :
    Paces libs i (enabledUser email >>= f) h := by
  have hall : (enabledUser email).All fun op => op.opens := by
    refine ⟨rfl, fun r => ?_⟩
    rcases r with _ | _ | userId
    · trivial
    · trivial
    · refine ⟨rfl, fun r => ?_⟩
      rcases r with _ | _ | user <;> trivial
  have huser : Sends i (fun h op => op.paced libs i h) (fun _ h => Begun h) (enabledUser email) h :=
    Sends.keeps hall (fun hop _ => CodeOp.opens_paced hop) (fun hop hK => hK.concat hop) hh
  exact huser.bind (fun user h' hh' => hf user h' hh') fun e => nomatch e

/-- A new login code, by the clock reading `now`. -/
theorem paces_sendLoginCode {email : String} {now : ℕ} {existing : Except DbError (Option LoginCode)}
    (hh : Begun h) : Paces libs i (sendLoginCode libs email now)
      (h ++ [⟨i, .clock, now⟩, ⟨i, .getLoginCode email, existing⟩]) := by
  refine ⟨trivial, fun code => ⟨trivial, fun r => ?_⟩⟩
  cases r with
  | error e => trivial
  | ok =>
      refine ⟨⟨?_, ?_, ?_⟩, fun _ => trivial⟩
      · intro ev hev
        simp only [List.append_assoc, List.mem_append, List.mem_cons, List.not_mem_nil,
          or_false] at hev
        rcases hev with hev | (rfl | rfl) | rfl | rfl
        · exact hh.noMail ev hev
        · rfl
        · rfl
        · rfl
        · rfl
      · intro hsubject now' hclock
        have hnow : now' = now := by
          have hbegun : (⟨i, .clock, now'⟩ : CodeEvent) ∉ h := hh.not_mem rfl
          simpa [hbegun] using hclock
        subst hnow
        refine ⟨⟨i, .putLoginCode email (libs.sha256Hex code) (now' + loginCodeExpireS) now', .ok ()⟩,
          by simp, rfl, rfl⟩
      · intro now' slug instanceId hclock hslug
        have hbegun : (⟨i, .getInstanceIdBySlug slug, .ok (some instanceId)⟩ : CodeEvent) ∉ h :=
          hh.not_mem rfl
        simp [hbegun] at hslug

theorem paces_requestAuthCode (email : String) (turnstileToken remoteIp : Option String) :
    Paces libs i (requestAuthCode libs email turnstileToken remoteIp) [] := by
  unfold requestAuthCode
  split
  · trivial
  · rename_i email' hemail
    refine ⟨trivial, fun r => ?_⟩
    have hbegun : Begun [⟨i, .verifyTurnstile turnstileToken remoteIp, r⟩] := by
      simp [Begun, CodeOp.opens]
    rcases r with e | allowed
    · trivial
    cases allowed with
    | false => trivial
    | true =>
        refine paces_enabledUser hbegun fun user h hh => ?_
        cases user with
        | none => trivial
        | some user =>
            refine ⟨hh.noMail, fun now => ⟨trivial, fun existing => ?_⟩⟩
            rw [List.append_assoc]
            show Paces libs i (if _ then _ else _) _
            split
            · trivial
            · exact paces_sendLoginCode hh

/-- The requests of a verifying call after it has read the clock. -/
def CodeOp.verifying : CodeOp → Prop
  | .putEphemeralState _ _ _ _ none | .sendPlainText .. => False
  | .putEphemeralState id kind payload _ (some _) =>
      (∃ hash, id = submitTokenStateId hash) ∨
        kind = submitCodeStateKind ∧ ∃ code, payload = .submitCode code
  | _ => True

/-- The call has read the clock and sent nothing. -/
def Timed (i : ℕ) (h : List CodeEvent) : Prop :=
  (∃ now, ⟨i, .clock, now⟩ ∈ h) ∧ ∀ ev ∈ h, ev.op.mails = false

theorem CodeOp.verifying_paced {op : CodeOp} (hop : op.verifying) (hh : Timed i h) :
    op.paced libs i h := by
  cases op with
  | putEphemeralState id kind payload expiresAt code =>
      cases code with
      | none => cases hop
      | some code => exact hop
  | deleteLoginCode => exact hh.1
  | deleteEphemeralState => exact hh.1
  | sendPlainText => cases hop
  | clock => exact hh.2
  | getInstanceIdBySlug => exact hh.2
  | _ => trivial

theorem Timed.concat {op : CodeOp} {r : op.Res} (hh : Timed i h) (hop : op.verifying) :
    Timed i (h ++ [⟨i, op, r⟩]) := by
  obtain ⟨⟨now, hnow⟩, hmails⟩ := hh
  refine ⟨⟨now, List.mem_append_left _ hnow⟩, fun ev hev => ?_⟩
  rcases List.mem_append.mp hev with hev | hev
  · exact hmails ev hev
  · rw [List.mem_singleton.mp hev]
    cases op with
    | sendPlainText => cases hop
    | _ => rfl

theorem paces_of_verifying {p : CodeProg α} (hp : p.All fun op => op.verifying)
    (hh : Timed i h) : Paces libs i p h :=
  (Sends.keeps (K := Timed i) hp (fun hop hK => CodeOp.verifying_paced hop hK)
    (fun hop hK => hK.concat hop) hh).post fun _ _ _ => trivial

theorem verifying_enabledUser (email : String) :
    (enabledUser email).All fun op => op.verifying := by
  refine ⟨trivial, fun r => ?_⟩
  rcases r with _ | _ | userId
  · trivial
  · trivial
  · refine ⟨trivial, fun r => ?_⟩
    rcases r with _ | _ | user <;> trivial

theorem verifying_issueUserToken (userId : String) (code : CodeId) :
    (issueUserToken libs userId code).All fun op => op.verifying := by
  refine ⟨trivial, fun nonce => ⟨trivial, fun now => ⟨trivial, fun r => ?_⟩⟩⟩
  cases r <;> trivial

theorem verifying_checkLoginCode (email code : String) (now : ℕ) (record : LoginCode) :
    (checkLoginCode libs email code now record).All fun op => op.verifying := by
  unfold checkLoginCode
  split
  · exact ⟨trivial, fun _ => trivial⟩
  · split
    · exact ⟨trivial, fun _ => trivial⟩
    · refine ⟨trivial, fun _ => ⟨trivial, fun same => ?_⟩⟩
      show Prog.All _ (if same = true then redeemLoginCode libs email record else Prog.done none)
      split
      · refine ⟨trivial, fun _ => ?_⟩
        refine (verifying_enabledUser email).bind fun user => ?_
        cases user with
        | none => trivial
        | some user => exact verifying_issueUserToken _ _
      · trivial

theorem paces_verifyAuthCode (email code : String) :
    Paces libs i (verifyAuthCode libs email code) [] := by
  unfold verifyAuthCode
  split
  · trivial
  · refine ⟨by simp [CodeOp.paced], fun now => paces_of_verifying ?_ ⟨⟨now, by simp⟩, by simp [CodeOp.mails]⟩⟩
    refine ⟨trivial, fun r => ?_⟩
    rcases r with _ | _ | record
    · trivial
    · trivial
    · exact verifying_checkLoginCode _ _ _ _

theorem verifying_issueSubmitToken (email instanceId : String) (code : CodeId) :
    (issueSubmitToken libs email instanceId code).All fun op => op.verifying := by
  refine ⟨trivial, fun nonce => ⟨trivial, fun now => ⟨.inl ⟨_, rfl⟩, fun r => ?_⟩⟩⟩
  cases r <;> trivial

theorem verifying_checkSubmitCode (stateId email instanceId code : String) (now : ℕ)
    (state : EphemeralState) :
    (checkSubmitCode libs stateId email instanceId code now state).All
      fun op => op.verifying := by
  unfold checkSubmitCode
  split
  · exact ⟨trivial, fun _ => trivial⟩
  · split
    · split
      · exact ⟨trivial, fun _ => trivial⟩
      · refine ⟨.inr ⟨rfl, _, rfl⟩, fun _ => ⟨trivial, fun same => ?_⟩⟩
        show Prog.All _ (if same = true then redeemSubmitCode libs stateId email instanceId _
          else Prog.done none)
        split
        · exact ⟨trivial, fun _ => verifying_issueSubmitToken _ _ _⟩
        · trivial
    · trivial

theorem paces_verifySubmitCode (slug email code : String) :
    Paces libs i (verifySubmitCode libs slug email code) [] := by
  refine ⟨by simp [CodeOp.paced], fun r => ?_⟩
  rcases r with _ | _ | instanceId
  · trivial
  · trivial
  · refine ⟨by simp [CodeOp.paced, CodeOp.mails], fun now =>
      paces_of_verifying ?_ ⟨⟨now, by simp⟩, by simp [CodeOp.mails]⟩⟩
    refine ⟨trivial, fun r => ?_⟩
    rcases r with _ | _ | state
    · trivial
    · trivial
    · show Prog.All _ (if _ then _ else _)
      split
      · exact verifying_checkSubmitCode _ _ _ _ _ _
      · trivial

/-- The subject of a submit code is not that of a login code. -/
theorem submitSubject_ne (name : String) : s!"Your {name} verification code" ≠ loginSubject := by
  intro heq
  have hsuffix : " verification code".toList <:+ loginSubject.toList := by
    rw [← heq]
    refine ⟨("Your " ++ name).toList, ?_⟩
    simp [String.toList_append, toString]
  exact absurd hsuffix (by decide)

theorem paces_requestSubmitCode (slug email : String) (turnstileToken remoteIp : Option String) :
    Paces libs i (requestSubmitCode libs slug email turnstileToken remoteIp) [] := by
  refine ⟨trivial, fun r => ?_⟩
  rcases r with e | allowed
  · trivial
  cases allowed with
  | false => trivial
  | true =>
      refine ⟨by simp [CodeOp.paced, CodeOp.mails], fun r => ?_⟩
      rcases r with _ | _ | instanceId
      · trivial
      · trivial
      refine ⟨trivial, fun r => ?_⟩
      rcases r with _ | _ | inst
      · trivial
      · trivial
      show Paces libs i (if _ then _ else _) _
      split
      · refine ⟨by simp [CodeOp.paced, CodeOp.mails], fun now => ⟨trivial, fun existing => ?_⟩⟩
        show Paces libs i (if _ then _ else _) _
        split
        · trivial
        · refine ⟨trivial, fun code => ⟨⟨⟨_, _, rfl⟩, rfl, _, rfl⟩, fun r => ?_⟩⟩
          cases r with
          | error e => trivial
          | ok =>
              refine ⟨⟨by simp [CodeOp.mails], ?_, ?_⟩, fun _ => trivial⟩
              · intro hsubject
                exact absurd hsubject (submitSubject_ne inst.name)
              · intro now' slug' instanceId' hclock hslug
                have hnow : now' = now := by simpa using hclock
                have hinstance : slug' = slug ∧ instanceId' = instanceId := by simpa using hslug
                obtain ⟨-, rfl⟩ := hinstance
                subst hnow
                refine ⟨⟨i, .putEphemeralState (submitCodeStateId libs instanceId' email)
                  submitCodeStateKind (.submitCode ⟨libs.sha256Hex code, 0, now'⟩)
                  (now' + submitCodeExpireS) none, .ok ()⟩, by simp, rfl, rfl⟩
      · trivial

/-- Every mutation keeps the contract. -/
theorem paces_mutation (m : CodeMutation) : Paces libs i (m.prog libs) [] := by
  have hvoid : ∀ {β : Type} {p : CodeProg β}, Paces libs i p [] → Paces libs i p.void [] := by
    intro β p hp
    exact hp.bind (fun _ _ _ => trivial) fun e => nomatch e
  cases m with
  | requestAuthCode email token ip => exact hvoid (paces_requestAuthCode email token ip)
  | verifyAuthCode email code => exact hvoid (paces_verifyAuthCode email code)
  | requestSubmitCode slug email token ip => exact hvoid (paces_requestSubmitCode slug email token ip)
  | verifySubmitCode slug email code => exact hvoid (paces_verifySubmitCode slug email code)

end contract

/-! ### What keeps the limit -/

section runs
variable {libs : CodeLibs} {readOnly reliable : Bool} {i j now : ℕ} {key : CodeKey}

/-- The committed tables. -/
def codeDb (t : Trace (codeService readOnly reliable)) : CodeDb := t.state.db.now

/-- Call `i` has read the clock at `now`, and no row `key` was deleted since. -/
def Since (key : CodeKey) (i now : ℕ) (evs : List CodeEvent) : Prop :=
  ∃ pre post, evs = pre ++ ⟨i, .clock, now⟩ :: post ∧ ∀ ev ∈ post, ¬ ev.op.deletes key

/-- The clock does not go back. -/
def ClockForward (t : Trace (codeService readOnly reliable)) : CodeEvent → Prop
  | ⟨_, .clock, now⟩ => ∀ j earlier, ⟨j, .clock, earlier⟩ ∈ t.events → earlier ≤ now
  | _ => True

/-- The clock does not go back, and the request leaves the limit in place: a new code is stored while
the row still passes the check of the call, which has read the clock after the last deletion of the
row; a row is deleted only by a call that has read the clock the limit after its code was sent; and a
row that is written back has no later time than the one it is written with. -/
structure LimitKept (t : Trace (codeService readOnly reliable)) (ev : CodeEvent) : Prop where
  forward : ClockForward t ev
  stored : ∀ key now, ev.op.newCode = some (key, now) → Since key ev.caller now t.events ∧
    ∀ sent, (codeDb t).sentAt key = some sent → sent + loginCodeRateLimitS ≤ now
  deleted : ∀ key sent, ev.op.deletes key → (codeDb t).sentAt key = some sent →
    ∀ now, ⟨ev.caller, .clock, now⟩ ∈ t.events → sent + loginCodeRateLimitS ≤ now
  writtenBack : ∀ id kind payload expiresAt code sent,
    ev.op = .putEphemeralState id kind (.submitCode payload) expiresAt (some code) →
    (codeDb t).sentAt (.submit id) = some sent → sent ≤ payload.lastSentAt

/-- Call `i` has stored a new code in the row `key`, by the clock reading `now`. -/
def StoredAt (key : CodeKey) (i now : ℕ) (evs : List CodeEvent) : Prop :=
  ∃ ev ∈ evs, ev.caller = i ∧ storesCode ev = some (key, now)

theorem since_concat {evs : List CodeEvent} {ev : CodeEvent} (h : Since key i now (evs ++ [ev])) :
    ev = ⟨i, .clock, now⟩ ∨ Since key i now evs ∧ ¬ ev.op.deletes key := by
  obtain ⟨pre, post, heq, hpost⟩ := h
  rcases List.eq_nil_or_concat post with rfl | ⟨post', last, rfl⟩
  · have hlast := (List.append_inj' heq rfl).2
    exact .inl (List.cons.inj hlast).1
  · rw [List.concat_eq_append] at heq hpost
    rw [← List.cons_append, ← List.append_assoc] at heq
    have hparts := List.append_inj' heq rfl
    have hev : ev = last := (List.cons.inj hparts.2).1
    subst hev
    refine .inr ⟨⟨pre, post', hparts.1, fun ev' hev' => ?_⟩, ?_⟩
    · exact hpost ev' (List.mem_append_left _ hev')
    · exact hpost ev (List.mem_append_right _ List.mem_cons_self)

theorem storedAt_concat {evs : List CodeEvent} {ev : CodeEvent} :
    StoredAt key i now (evs ++ [ev]) ↔
      StoredAt key i now evs ∨ ev.caller = i ∧ storesCode ev = some (key, now) := by
  unfold StoredAt
  constructor
  · rintro ⟨ev', hev', hstores⟩
    rcases List.mem_append.mp hev' with hold | hnew
    · exact .inl ⟨ev', hold, hstores⟩
    · rw [List.mem_singleton.mp hnew] at hstores
      exact .inr hstores
  · rintro (⟨ev', hold, hstores⟩ | hstores)
    · exact ⟨ev', List.mem_append_left _ hold, hstores⟩
    · exact ⟨ev, List.mem_append_right _ List.mem_cons_self, hstores⟩

theorem newCode_of_stores {ev : CodeEvent} (h : storesCode ev = some (key, now)) :
    ev.op.newCode = some (key, now) := by
  unfold storesCode at h
  split at h
  · exact h
  · exact h
  · cases h

/-- A row was deleted, and every reading of the clock since is the limit after `sent`. -/
def Faded (key : CodeKey) (sent : ℕ) (evs : List CodeEvent) : Prop :=
  (∃ j now, ⟨j, .clock, now⟩ ∈ evs ∧ sent + loginCodeRateLimitS ≤ now) ∧
    ∀ j now, Since key j now evs → sent + loginCodeRateLimitS ≤ now

theorem Faded.concat {sent : ℕ} {t : Trace (codeService readOnly reliable)} {ev : CodeEvent}
    (h : Faded key sent t.events) (hforward : ClockForward t ev) :
    Faded key sent (t.events ++ [ev]) := by
  obtain ⟨⟨k, late, hlate, hlimit⟩, hsince⟩ := h
  refine ⟨⟨k, late, List.mem_append_left _ hlate, hlimit⟩, fun j now hnow => ?_⟩
  rcases since_concat hnow with rfl | ⟨hold, -⟩
  · have hle : late ≤ now := hforward k late hlate
    omega
  · exact hsince j now hold

/-- What holds along a run that keeps the limit. -/
structure Paced (libs : CodeLibs) (t : Trace (codeService readOnly reliable)) : Prop where
  ids : ∀ {id i now}, StoredAt (.submit id) i now t.events →
    ∃ instanceId email, id = submitCodeStateId libs instanceId email
  spaced : ∀ {key i j now now'}, StoredAt key i now t.events → StoredAt key j now' t.events → i ≠ j →
    now + loginCodeRateLimitS ≤ now' ∨ now' + loginCodeRateLimitS ≤ now
  recent : ∀ {key i now}, StoredAt key i now t.events →
    (∃ sent, (codeDb t).sentAt key = some sent ∧ now ≤ sent) ∨ Faded key now t.events

section step
variable {t : Trace (codeService readOnly reliable)} {e : CodeEnv} {op : CodeOp}

theorem sentAt_serve (key : CodeKey) : (codeDb (t.serve i e op)).sentAt key = (codeDb t).sentAt key ∨
    op.writes key ∧
      (codeDb (t.serve i e op)).sentAt key = op.leavesSent ((codeDb t).sentAt key) := by
  rcases CodeStore.serve_state readOnly reliable t.state e op with heq | ⟨-, d, hd, heq⟩
  · have hstate : codeDb (t.serve i e op) = codeDb t := congrArg (fun s => (CodeStore.db s).now) heq
    rw [hstate]
    exact .inl rfl
  · have hstate : codeDb (t.serve i e op) = d := congrArg (fun s => (CodeStore.db s).now) heq
    rw [hstate, CodeDb.sentAt_change hd key]
    split
    · rename_i hwrites
      exact .inr ⟨hwrites, rfl⟩
    · exact .inl rfl

theorem CodeStore.write_ok {s : CodeStore} {d : Option CodeDb}
    (h : (s.write e readOnly d).1 = .ok ()) :
    ∃ d', d = some d' ∧ (s.write e readOnly d).2.db.now = d' := by
  cases d with
  | none => cases h
  | some d =>
      refine ⟨d, rfl, ?_⟩
      unfold CodeStore.write at h ⊢
      cases readOnly with
      | true => cases h
      | false =>
          revert h
          cases e.fault with
          | none => exact fun _ => rfl
          | unacknowledged => exact fun _ => rfl
          | lost => exact fun h => nomatch h
          | cancelled => exact fun h => nomatch h

/-- A new code that was stored is there, with its time. -/
theorem sentAt_stored (hop : op.paced libs i (ownEvents i t.events))
    (hstores : storesCode ⟨i, op, (t.state.serve e readOnly reliable op).1⟩ = some (key, now)) :
    (codeDb (t.serve i e op)).sentAt key = some now := by
  have hnew := newCode_of_stores hstores
  cases op with
  | putLoginCode email codeHash expiresAt now' =>
      cases hnew
      cases hres : (t.state.serve e readOnly reliable (.putLoginCode email codeHash expiresAt now)).1 with
      | error err =>
          rw [hres] at hstores
          cases hstores
      | ok =>
          obtain ⟨d, hd, hnow⟩ := CodeStore.write_ok hres
          have hsent := CodeDb.sentAt_change hd (.login email)
          have hstate : codeDb (t.serve i e (.putLoginCode email codeHash expiresAt now)) = d := hnow
          rw [hstate, hsent]
          simp [CodeOp.writes, CodeOp.leavesSent]
  | putEphemeralState id kind payload expiresAt code =>
      cases code with
      | some code => cases payload <;> cases hnew
      | none =>
          obtain ⟨-, rfl, payload', rfl⟩ := hop
          cases hnew
          cases hres : (t.state.serve e readOnly reliable (.putEphemeralState id submitCodeStateKind
            (.submitCode payload') expiresAt none)).1 with
          | error err =>
              rw [hres] at hstores
              cases hstores
          | ok =>
              obtain ⟨d, hd, hnow⟩ := CodeStore.write_ok hres
              have hsent := CodeDb.sentAt_change hd (.submit id)
              have hstate : codeDb (t.serve i e (.putEphemeralState id submitCodeStateKind
                (.submitCode payload') expiresAt none)) = d := hnow
              rw [hstate, hsent]
              simp [CodeOp.writes, CodeOp.leavesSent, Payload.sentAt]
  | _ => cases hnew

/-- The row of a submit token is not that of a submit code. -/
theorem submitStateIds_ne (instanceId email hash : String) :
    submitCodeStateId libs instanceId email ≠ submitTokenStateId hash := by
  intro heq
  have hchar : 'c' = 't' := by
    have hchars := congrArg (fun s => s.toList[7]?) heq
    simp [submitCodeStateId, submitTokenStateId, submitCodeStateKind, submitTokenStateKind,
      String.toList_append, toString] at hchars
  cases hchar

/-- A new code is stored the limit after every earlier one of its row. -/
theorem Paced.apart (h : Paced libs t) {ev : CodeEvent} (hok : LimitKept t ev)
    (hnew : ev.op.newCode = some (key, now)) {earlier : ℕ} (hold : StoredAt key j earlier t.events) :
    earlier + loginCodeRateLimitS ≤ now := by
  obtain ⟨hsince, hcheck⟩ := hok.stored key now hnew
  rcases h.recent hold with ⟨sent, hsent, hle⟩ | hfaded
  · have hlimit := hcheck sent hsent
    omega
  · exact hfaded.2 ev.caller now hsince

/-- After a row was deleted by a call with a late reading of the clock. -/
theorem faded_of_delete {sent : ℕ} {r : op.Res} (hdelete : op.deletes key)
    (hclock : ∃ late, ⟨i, .clock, late⟩ ∈ ownEvents i t.events)
    (hlimit : ∀ late, ⟨i, .clock, late⟩ ∈ t.events → sent + loginCodeRateLimitS ≤ late) :
    Faded key sent (t.events ++ [⟨i, op, r⟩]) := by
  obtain ⟨late, hlate⟩ := hclock
  have hmem := (mem_ownEvents.mp hlate).1
  refine ⟨⟨i, late, List.mem_append_left _ hmem, hlimit late hmem⟩, fun k m hnow => ?_⟩
  rcases since_concat hnow with hclock | ⟨-, hkept⟩
  · obtain ⟨-, rfl, -⟩ := Event.mk.inj hclock
    cases hdelete
  · exact absurd hdelete hkept

/-- A code that was stored stays within the time of its row. -/
theorem Paced.recent_serve (h : Paced libs t) (hop : op.paced libs i (ownEvents i t.events))
    (hok : LimitKept t ⟨i, op, (t.state.serve e readOnly reliable op).1⟩)
    (hold : StoredAt key j now t.events) :
    (∃ sent, (codeDb (t.serve i e op)).sentAt key = some sent ∧ now ≤ sent) ∨
      Faded key now (t.serve i e op).events := by
  rw [Trace.serve_events]
  rcases h.recent hold with ⟨sent, hsent, hle⟩ | hfaded
  · rcases (sentAt_serve key : (codeDb (t.serve i e op)).sentAt key = _ ∨ _) with
      hsame | ⟨hwrites, hleaves⟩
    · exact .inl ⟨sent, hsame.trans hsent, hle⟩
    · rw [hleaves, hsent]
      cases op with
      | putLoginCode email codeHash expiresAt later =>
          obtain rfl : key = .login email := of_decide_eq_true hwrites
          have hlimit := (hok.stored _ _ rfl).2 sent hsent
          exact .inl ⟨later, rfl, by omega⟩
      | incrementLoginCodeAttempts email code => exact .inl ⟨sent, rfl, hle⟩
      | putEphemeralState id kind payload expiresAt code =>
          obtain rfl : key = .submit id := of_decide_eq_true hwrites
          cases code with
          | none =>
              obtain ⟨-, rfl, code, rfl⟩ := hop
              have hlimit := (hok.stored _ _ rfl).2 sent hsent
              exact .inl ⟨code.lastSentAt, by simp [CodeOp.leavesSent, Payload.sentAt], by omega⟩
          | some issued =>
              rcases hop with ⟨hash, hid⟩ | ⟨rfl, code, rfl⟩
              · obtain ⟨instanceId, email, hcode⟩ := h.ids hold
                exact absurd (hcode.symm.trans hid) (submitStateIds_ne _ _ _)
              · have hlater := hok.writtenBack id _ code expiresAt issued sent rfl hsent
                exact .inl ⟨code.lastSentAt, by simp [CodeOp.leavesSent, Payload.sentAt], by omega⟩
      | deleteLoginCode email =>
          have hlimit := hok.deleted key sent hwrites hsent
          exact .inr (faded_of_delete hwrites hop fun late hlate => by
            have := hlimit late hlate
            omega)
      | deleteEphemeralState id =>
          have hlimit := hok.deleted key sent hwrites hsent
          exact .inr (faded_of_delete hwrites hop fun late hlate => by
            have := hlimit late hlate
            omega)
      | _ => cases hwrites
  · exact .inr (hfaded.concat hok.forward)

theorem Paced.serve (h : Paced libs t) (hop : op.paced libs i (ownEvents i t.events))
    (hok : LimitKept t ⟨i, op, (t.state.serve e readOnly reliable op).1⟩) :
    Paced libs (t.serve i e op) where
  ids := by
    intro id k now hstored
    rw [Trace.serve_events, storedAt_concat] at hstored
    rcases hstored with hold | ⟨-, hnew⟩
    · exact h.ids hold
    · have hcode := newCode_of_stores hnew
      cases op with
      | putEphemeralState id' kind payload expiresAt code =>
          cases code with
          | none =>
              obtain ⟨hid, -, code, rfl⟩ := hop
              cases hcode
              exact hid
          | some code => cases payload <;> cases hcode
      | _ => cases hcode
  spaced := by
    intro key k₁ k₂ now₁ now₂ h₁ h₂ hne
    rw [Trace.serve_events, storedAt_concat] at h₁ h₂
    rcases h₁ with h₁ | ⟨hcaller₁, hnew₁⟩
    · rcases h₂ with h₂ | ⟨-, hnew₂⟩
      · exact h.spaced h₁ h₂ hne
      · exact .inl (h.apart hok (newCode_of_stores hnew₂) h₁)
    · rcases h₂ with h₂ | ⟨hcaller₂, -⟩
      · exact .inr (h.apart hok (newCode_of_stores hnew₁) h₂)
      · exact absurd (hcaller₁.symm.trans hcaller₂) hne
  recent := by
    intro key k now hstored
    rw [Trace.serve_events, storedAt_concat] at hstored
    rcases hstored with hold | ⟨-, hnew⟩
    · exact h.recent_serve hop hok hold
    · exact .inl ⟨now, sentAt_stored hop hnew, le_refl _⟩

end step

/-! ### The mails -/

/-- A call mails at most once, and only after it has stored the code by its reading of the clock. -/
structure Mailing (libs : CodeLibs) (evs : List CodeEvent) : Prop where
  login : ∀ {j now email content r}, ⟨j, .sendPlainText email loginSubject content, r⟩ ∈ evs →
    ⟨j, .clock, now⟩ ∈ evs → StoredAt (.login email) j now evs
  submit : ∀ {j now slug instanceId email subject content r},
    ⟨j, .sendPlainText email subject content, r⟩ ∈ evs → ⟨j, .clock, now⟩ ∈ evs →
    ⟨j, .getInstanceIdBySlug slug, .ok (some instanceId)⟩ ∈ evs →
    StoredAt (.submit (submitCodeStateId libs instanceId email)) j now evs
  single : ∀ j, (evs.countP fun ev => ev.caller == j && ev.op.mails) ≤ 1

/-- The mails of a code row are the limit apart, and no call sends two. -/
structure RateLimited (evs : List CodeEvent) : Prop where
  login : ∀ email, Spaced (MailsLogin evs email)
  submit : ∀ instanceId email, Spaced (MailsSubmit evs instanceId email)
  single : ∀ j, (evs.countP fun ev => ev.caller == j && ev.op.mails) ≤ 1

theorem storedAt_own {evs : List CodeEvent}
    (h : ∃ ev ∈ ownEvents i evs, ev.caller = i ∧ storesCode ev = some (key, now)) :
    StoredAt key i now evs := by
  obtain ⟨ev, hev, hstores⟩ := h
  exact ⟨ev, (mem_ownEvents.mp hev).1, hstores⟩

theorem Mailing.concat {evs : List CodeEvent} {op : CodeOp} {r : op.Res} (h : Mailing libs evs)
    (hop : op.paced libs i (ownEvents i evs)) : Mailing libs (evs ++ [⟨i, op, r⟩]) where
  login := by
    intro j now email content r' hmail hclock
    rw [storedAt_concat]
    left
    rcases List.mem_append.mp hmail with hmailed | hmailed
    · rcases List.mem_append.mp hclock with hread | hread
      · exact h.login hmailed hread
      · obtain ⟨rfl, rfl, -⟩ := Event.mk.inj (List.mem_singleton.mp hread)
        have hnone := hop ⟨j, .sendPlainText email loginSubject content, r'⟩
          (mem_ownEvents.mpr ⟨hmailed, rfl⟩)
        cases hnone
    · obtain ⟨rfl, rfl, -⟩ := Event.mk.inj (List.mem_singleton.mp hmailed)
      rcases List.mem_append.mp hclock with hread | hread
      · exact storedAt_own (hop.2.1 rfl now (mem_ownEvents.mpr ⟨hread, rfl⟩))
      · have hsame := (Event.mk.inj (List.mem_singleton.mp hread)).2.1
        cases hsame
  submit := by
    intro j now slug instanceId email subject content r' hmail hclock hslug
    rw [storedAt_concat]
    left
    rcases List.mem_append.mp hmail with hmailed | hmailed
    · rcases List.mem_append.mp hclock with hread | hread
      · rcases List.mem_append.mp hslug with hfound | hfound
        · exact h.submit hmailed hread hfound
        · obtain ⟨rfl, rfl, -⟩ := Event.mk.inj (List.mem_singleton.mp hfound)
          have hnone := hop ⟨j, .sendPlainText email subject content, r'⟩
            (mem_ownEvents.mpr ⟨hmailed, rfl⟩)
          cases hnone
      · obtain ⟨rfl, rfl, -⟩ := Event.mk.inj (List.mem_singleton.mp hread)
        have hnone := hop ⟨j, .sendPlainText email subject content, r'⟩
          (mem_ownEvents.mpr ⟨hmailed, rfl⟩)
        cases hnone
    · obtain ⟨rfl, rfl, -⟩ := Event.mk.inj (List.mem_singleton.mp hmailed)
      rcases List.mem_append.mp hclock with hread | hread
      · rcases List.mem_append.mp hslug with hfound | hfound
        · exact storedAt_own (hop.2.2 now slug instanceId (mem_ownEvents.mpr ⟨hread, rfl⟩)
            (mem_ownEvents.mpr ⟨hfound, rfl⟩))
        · have hsame := (Event.mk.inj (List.mem_singleton.mp hfound)).2.1
          cases hsame
      · have hsame := (Event.mk.inj (List.mem_singleton.mp hread)).2.1
        cases hsame
  single := by
    intro j
    have hold := h.single j
    rw [List.countP_append, List.countP_singleton]
    split
    · rename_i hnew
      obtain ⟨hcaller, hmails⟩ := Bool.and_eq_true_iff.mp hnew
      have hj : i = j := of_decide_eq_true hcaller
      subst hj
      have hnone : evs.countP (fun ev => ev.caller == i && ev.op.mails) = 0 := by
        rw [List.countP_eq_zero]
        intro ev hev hmail
        obtain ⟨hown, hmail⟩ := Bool.and_eq_true_iff.mp hmail
        have hown : ev.caller = i := of_decide_eq_true hown
        cases op with
        | sendPlainText =>
            have hfirst := hop.1 ev (mem_ownEvents.mpr ⟨hev, hown⟩)
            rw [hfirst] at hmail
            cases hmail
        | _ => cases hmails
      omega
    · omega

/-- The check of `ClockForward`. -/
def clockForwardTest (c : Pool (codeService readOnly reliable) Empty Unit) : CodeEvent → Bool
  | ⟨_, .clock, now⟩ => c.trace.events.all fun
      | ⟨_, .clock, earlier⟩ => earlier ≤ now
      | _ => true
  | _ => true

theorem clockForward_of_test {c : Pool (codeService readOnly reliable) Empty Unit} {ev : CodeEvent}
    (h : clockForwardTest c ev) : ClockForward c.trace ev := by
  unfold clockForwardTest at h
  unfold ClockForward
  split at h
  · intro j earlier hearlier
    exact of_decide_eq_true (List.all_eq_true.mp h _ hearlier)
  · trivial

/-- The request neither deletes a row nor writes one back. -/
def CodeOp.asks : CodeOp → Bool
  | .deleteLoginCode _ | .deleteEphemeralState _ | .putEphemeralState _ _ _ _ (some _) => false
  | _ => true

/-- The check of `LimitKept` in a run of requesting calls. -/
def limitKeptTest (c : Pool (codeService readOnly reliable) Empty Unit) (ev : CodeEvent) : Bool :=
  clockForwardTest c ev && ev.op.asks && c.trace.events.all (fun ev => ev.op.asks) &&
    match ev.op.newCode with
    | some (key, now) =>
        (c.trace.events.any fun
          | ⟨i, .clock, read⟩ => i == ev.caller && read == now
          | _ => false) &&
        ((codeDb c.trace).sentAt key).all fun sent => sent + loginCodeRateLimitS ≤ now
    | none => true

theorem CodeOp.asks_deletes {op : CodeOp} (hop : op.asks) : ¬ op.deletes key := by
  cases op with
  | deleteLoginCode => cases hop
  | deleteEphemeralState => cases hop
  | _ => exact Bool.false_ne_true

theorem limitKept_of_test {c : Pool (codeService readOnly reliable) Empty Unit} {ev : CodeEvent}
    (h : limitKeptTest c ev) : LimitKept c.trace ev := by
  unfold limitKeptTest at h
  obtain ⟨h, hstored⟩ := Bool.and_eq_true_iff.mp h
  obtain ⟨h, hall⟩ := Bool.and_eq_true_iff.mp h
  obtain ⟨hforward, hasks⟩ := Bool.and_eq_true_iff.mp h
  constructor
  · exact clockForward_of_test hforward
  · intro key now hnew
    rw [hnew] at hstored
    obtain ⟨hread, hcheck⟩ := Bool.and_eq_true_iff.mp hstored
    constructor
    · obtain ⟨ev', hev', hclock⟩ := List.any_eq_true.mp hread
      have heq : ev' = ⟨ev.caller, .clock, now⟩ := by
        split at hclock
        · obtain ⟨hi, hnow⟩ := Bool.and_eq_true_iff.mp hclock
          rw [of_decide_eq_true hi, of_decide_eq_true hnow]
        · cases hclock
      subst heq
      obtain ⟨pre, post, hsplit⟩ := List.append_of_mem hev'
      refine ⟨pre, post, hsplit, fun ev' hpost => ?_⟩
      apply CodeOp.asks_deletes
      apply List.all_eq_true.mp hall
      rw [hsplit]
      exact List.mem_append_right _ (List.mem_cons_of_mem _ hpost)
    · intro sent hsent
      rw [hsent] at hcheck
      exact of_decide_eq_true hcheck
  · exact fun key sent hdeletes => absurd hdeletes (CodeOp.asks_deletes hasks)
  · intro id kind payload expiresAt code sent hop
    rw [hop] at hasks
    cases hasks

end runs

/-! ### Sample runs -/

/-- The next requests of program `i` are served at the time `now`. -/
def codeServesAt (i now : ℕ) (nonce : String) (numbers : List ℕ) : List CodeMove :=
  numbers.map fun number => .serve i { sampleCodeEnv nonce number with now := now }

def noCodes : CodePool := Pool.init ⟨⟨⟨∅, ∅, []⟩, []⟩, []⟩

/-- Two login codes, thirty seconds apart. -/
def codesApart : List CodeMove :=
  [loginCall] ++ codeServesAt 0 100 "" [1, 2, 3, 4, 5, 6, 7, 8] ++
    [loginCall] ++ codeServesAt 1 130 "" [11, 12, 13, 14, 15, 16, 17, 18]

/-- A login code, used a second later, and the next code a second after that. -/
def loginResent : List CodeMove :=
  [loginCall] ++ codeServesAt 0 100 "" [1, 2, 3, 4, 5, 6, 7, 8] ++
    [verifyCall "000042"] ++ codeServesAt 1 101 "n1" [11, 12, 13, 14, 15, 16, 17, 18, 19, 20] ++
    [loginCall] ++ codeServesAt 2 102 "" [21, 22, 23, 24, 25, 26, 27, 28]

def submitCall : CodeMove := codeCall (.requestSubmitCode "help" "ann@example.org" none none)

/-- The same with a submit code. -/
def submitResent : List CodeMove :=
  [submitCall] ++ codeServesAt 0 100 "" [1, 2, 3, 4, 5, 6, 7, 8] ++
    [codeCall (.verifySubmitCode "help" "ann@example.org" "000042")] ++
    codeServesAt 1 101 "n1" [11, 12, 13, 14, 15, 16, 17, 18, 19] ++
    [submitCall] ++ codeServesAt 2 102 "" [21, 22, 23, 24, 25, 26, 27, 28]

def clockTest (evs : List CodeEvent) (j now : ℕ) : Bool := evs.any fun
  | ⟨i, .clock, read⟩ => i == j && read == now
  | _ => false

def slugTest (evs : List CodeEvent) (j : ℕ) (instanceId : String) : Bool := evs.any fun
  | ⟨i, .getInstanceIdBySlug _, .ok (some id)⟩ => i == j && id == instanceId
  | _ => false

def mailTest (evs : List CodeEvent) (j : ℕ) (email subject : String) : Bool := evs.any fun
  | ⟨i, .sendPlainText recipient title _, _⟩ => i == j && recipient == email && title == subject
  | _ => false

theorem clock_of_test {evs : List CodeEvent} {j now : ℕ} (h : clockTest evs j now) :
    ⟨j, .clock, now⟩ ∈ evs := by
  obtain ⟨ev, hev, htest⟩ := List.any_eq_true.mp h
  split at htest
  · obtain ⟨hi, hnow⟩ := Bool.and_eq_true_iff.mp htest
    rw [← of_decide_eq_true hi, ← of_decide_eq_true hnow]
    exact hev
  · cases htest

theorem slug_of_test {evs : List CodeEvent} {j : ℕ} {instanceId : String}
    (h : slugTest evs j instanceId) :
    ∃ slug, ⟨j, .getInstanceIdBySlug slug, .ok (some instanceId)⟩ ∈ evs := by
  obtain ⟨ev, hev, htest⟩ := List.any_eq_true.mp h
  split at htest
  · rename_i i slug id
    obtain ⟨hi, hid⟩ := Bool.and_eq_true_iff.mp htest
    rw [← of_decide_eq_true hi, ← of_decide_eq_true hid]
    exact ⟨slug, hev⟩
  · cases htest

theorem mail_of_test {evs : List CodeEvent} {j : ℕ} {email subject : String}
    (h : mailTest evs j email subject) :
    ∃ content r, ⟨j, .sendPlainText email subject content, r⟩ ∈ evs := by
  obtain ⟨ev, hev, htest⟩ := List.any_eq_true.mp h
  split at htest
  · rename_i i recipient title content r
    obtain ⟨htest, htitle⟩ := Bool.and_eq_true_iff.mp htest
    obtain ⟨hi, hrecipient⟩ := Bool.and_eq_true_iff.mp htest
    obtain rfl : i = j := of_decide_eq_true hi
    obtain rfl : recipient = email := of_decide_eq_true hrecipient
    obtain rfl : title = subject := of_decide_eq_true htitle
    exact ⟨content, r, hev⟩
  · cases htest

/-- Call `j` has mailed a login code to Ann. -/
def loginMailTest (evs : List CodeEvent) (j now : ℕ) : Bool :=
  clockTest evs j now && mailTest evs j "ann@example.org" loginSubject

/-- Call `j` has mailed a submit code of `i1` to Ann. -/
def submitMailTest (evs : List CodeEvent) (j now : ℕ) : Bool :=
  clockTest evs j now && slugTest evs j "i1" &&
    mailTest evs j "ann@example.org" "Your Help verification code"

theorem mailsLogin_of_test {evs : List CodeEvent} {j now : ℕ} (h : loginMailTest evs j now) :
    MailsLogin evs "ann@example.org" j now := by
  obtain ⟨hclock, hmail⟩ := Bool.and_eq_true_iff.mp h
  exact ⟨clock_of_test hclock, mail_of_test hmail⟩

theorem mailsSubmit_of_test {evs : List CodeEvent} {j now : ℕ} (h : submitMailTest evs j now) :
    MailsSubmit evs "i1" "ann@example.org" j now := by
  obtain ⟨h, hmail⟩ := Bool.and_eq_true_iff.mp h
  obtain ⟨hclock, hslug⟩ := Bool.and_eq_true_iff.mp h
  exact ⟨clock_of_test hclock, slug_of_test hslug, _, mail_of_test hmail⟩

end Microticket

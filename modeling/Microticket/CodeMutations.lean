import Microticket.CodeStore
import Microticket.Prog

/-! # Login codes and submit codes

The resolvers `request_auth_code`, `verify_auth_code`, `request_submit_code` and
`verify_submit_code` of `graphql/mutations.rs` with `issue_user_token` and `issue_submit_token` of
`auth.rs`, as programs over the requests of `CodeStore`.  Every failure ends in the same answer
(`true` and `None`), so the programs have no error type.

`CodeLibs` is what they use of other crates: Unicode lower case, the `{:?}` format and the hex
SHA-256. -/

namespace Microticket

open Interleaving RustText

/-- What the resolvers use of other crates. -/
structure CodeLibs where
  toLowercase : String → String
  debug : String → String
  sha256Hex : String → String

/-- A program over the tables of codes. -/
abbrev CodeProg (α : Type) : Type := Prog CodeOp CodeOp.Res Empty α

/-- Send a request. -/
def ask (op : CodeOp) : CodeProg (op.Res) := .call op .done

def loginCodeRateLimitS : ℕ := 30
def loginCodeMaxAttempts : ℕ := 5
def loginCodeDigits : ℕ := 6
def loginCodeExpireS : ℕ := 60 * 10
def submitCodeExpireS : ℕ := 60 * 10
def userTokenExpireS : ℕ := 60 * 60 * 8
def requesterSubmitTokenExpireS : ℕ := 60 * 15

variable (libs : CodeLibs)

/-- `normalize_user_email`. -/
def normalizeUserEmail (raw : String) : Except String String :=
  let email := libs.toLowercase (trim raw)
  match splitOnce '@' email with
  | none => .error s!"{libs.debug raw} is not a valid email address (missing '@')"
  | some (localPart, domain) =>
      if localPart.isEmpty || domain.isEmpty || domain.toList.contains '@' then
        .error s!"{libs.debug raw} is not a valid email address"
      else .ok email

/-- `submit_code_state_id`. -/
def submitCodeStateId (instanceId email : String) : String :=
  let hash := libs.sha256Hex (instanceId ++ ":" ++ email)
  s!"{submitCodeStateKind}_{hash}"

/-- `submit_token_state_id`. -/
def submitTokenStateId (tokenHash : String) : String := s!"{submitTokenStateKind}_{tokenHash}"

/-! ### Tokens -/

/-- `issue_user_token`, for the code `code`; `None` if the row cannot be stored. -/
def issueUserToken (userId : String) (code : CodeId) : CodeProg (Option String) := do
  let nonce ← ask (.generateNonce 32)
  let secret := "mtu_" ++ nonce
  let now ← ask .clock
  match ← ask (.createUserToken (libs.sha256Hex secret) userId (now + userTokenExpireS) code) with
  | .ok () => return some secret
  | .error _ => return none

/-- `issue_submit_token`, for the code `code`; `None` if the row cannot be stored. -/
def issueSubmitToken (email instanceId : String) (code : CodeId) : CodeProg (Option String) := do
  let nonce ← ask (.generateNonce 16)
  let secret := "mts_" ++ nonce
  let now ← ask .clock
  match ← ask (.putEphemeralState (submitTokenStateId (libs.sha256Hex secret))
    submitTokenStateKind (.submitToken email instanceId) (now + requesterSubmitTokenExpireS)
    (some code)) with
  | .ok () => return some secret
  | .error _ => return none

/-! ### Login codes -/

/-- The body of both mails. -/
def codeMail (what code : String) : String :=
  s!"Your {what} code is: {code}\n\nThis code expires in 10 minutes. Do not share it.\n\n" ++
    "If you did not request this code, you can ignore this email."

/-- `request_auth_code` once the rate limit allows it: generate, store and send the code. -/
def sendLoginCode (email : String) (now : ℕ) : CodeProg Bool := do
  let code ← ask (.generateCode loginCodeDigits)
  match ← ask (.putLoginCode email (libs.sha256Hex code) (now + loginCodeExpireS) now) with
  | .error _ => return true
  | .ok () =>
      let _ ← ask (.sendPlainText email "Your Toolbox login code" (codeMail "login" code))
      return true

/-- The rate limit of `request_auth_code`: whether the stored code was sent too recently. -/
def loginRateLimited (now : ℕ) : Except DbError (Option LoginCode) → Bool
  | .ok (some existing) => now < existing.lastSentAt + loginCodeRateLimitS
  | _ => false

/-- `request_auth_code` for an enabled user. -/
def requestLoginCode (email : String) : CodeProg Bool := do
  let now ← ask .clock
  let existing ← ask (.getLoginCode email)
  if loginRateLimited now existing then return true else sendLoginCode libs email now

/-- The user with this email, if there is one and it is enabled. -/
def enabledUser (email : String) : CodeProg (Option User) := do
  match ← ask (.getUserIdByEmail email) with
  | .ok (some userId) =>
      match ← ask (.getUser userId) with
      | .ok (some user) => return if user.enabled then some user else none
      | _ => return none
  | _ => return none

/-- `request_auth_code`. -/
def requestAuthCode (email : String) (turnstileToken remoteIp : Option String) :
    CodeProg Bool :=
  match normalizeUserEmail libs email with
  | .error _ => .done true
  | .ok email => do
      match ← ask (.verifyTurnstile turnstileToken remoteIp) with
      | .ok true =>
          match ← enabledUser email with
          | some _ => requestLoginCode libs email
          | none => return true
      | _ => return true

/-- The end of `verify_auth_code`: the code was right, so it is deleted and a token is issued. -/
def redeemLoginCode (email : String) (record : LoginCode) : CodeProg (Option String) := do
  let _ ← ask (.deleteLoginCode email)
  match ← enabledUser email with
  | some user => issueUserToken libs user.id record.code
  | none => return none

/-- `verify_auth_code` with the code's row: count the attempt, then compare. -/
def tryLoginCode (email code : String) (record : LoginCode) : CodeProg (Option String) := do
  let _ ← ask (.incrementLoginCodeAttempts email record.code)
  let same ← ask (.compareHash record.code record.codeHash (libs.sha256Hex code))
  if same then redeemLoginCode libs email record else return none

/-- Delete the row and answer `None`: the code is expired or was tried too often. -/
def burnLoginCode (email : String) : CodeProg (Option String) := do
  let _ ← ask (.deleteLoginCode email)
  return none

/-- `verify_auth_code` with the code's row. -/
def checkLoginCode (email code : String) (now : ℕ) (record : LoginCode) :
    CodeProg (Option String) :=
  if record.expiresAt ≤ now then burnLoginCode email
  else if loginCodeMaxAttempts ≤ record.attempts then burnLoginCode email
  else tryLoginCode libs email code record

/-- `verify_auth_code`. -/
def verifyAuthCode (email code : String) : CodeProg (Option String) :=
  match normalizeUserEmail libs email with
  | .error _ => .done none
  | .ok email => do
      let now ← ask .clock
      match ← ask (.getLoginCode email) with
      | .ok (some record) => checkLoginCode libs email code now record
      | _ => return none

/-! ### Submit codes -/

/-- `request_submit_code` once the rate limit allows it: generate, store and send the code. -/
def sendSubmitCode (stateId email instanceName : String) (now : ℕ) : CodeProg Bool := do
  let code ← ask (.generateCode loginCodeDigits)
  match ← ask (.putEphemeralState stateId submitCodeStateKind
    (.submitCode { codeHash := libs.sha256Hex code, attempts := 0, lastSentAt := now })
    (now + submitCodeExpireS) none) with
  | .error _ => return true
  | .ok () =>
      let _ ← ask (.sendPlainText email s!"Your {instanceName} verification code"
        (codeMail "verification" code))
      return true

/-- The rate limit of `request_submit_code`: whether the stored code was sent too recently. -/
def submitRateLimited (now : ℕ) : Except DbError (Option EphemeralState) → Bool
  | .ok (some existing) =>
      match existing.payload with
      | .submitCode payload => existing.kind == submitCodeStateKind &&
          decide (now < payload.lastSentAt + loginCodeRateLimitS)
      | _ => false
  | _ => false

/-- `request_submit_code` for a public instance. -/
def requestInstanceSubmitCode (inst : Instance) (instanceId email : String) : CodeProg Bool := do
  let now ← ask .clock
  let stateId := submitCodeStateId libs instanceId email
  let existing ← ask (.getEphemeralState stateId)
  if submitRateLimited now existing then return true
  else sendSubmitCode libs stateId email inst.name now

/-- The instance takes public submissions. -/
def acceptsSubmissions (inst : Instance) : Bool :=
  inst.publicSubmissionEnabled && !inst.deleted && inst.kind == .support

/-- `request_submit_code`. -/
def requestSubmitCode (slug email : String) (turnstileToken remoteIp : Option String) :
    CodeProg Bool := do
  match ← ask (.verifyTurnstile turnstileToken remoteIp) with
  | .ok true =>
      match ← ask (.getInstanceIdBySlug slug) with
      | .ok (some instanceId) =>
          match ← ask (.getInstance instanceId) with
          | .ok (some inst) =>
              if acceptsSubmissions inst then requestInstanceSubmitCode libs inst instanceId email
              else return true
          | _ => return true
      | _ => return true
  | _ => return true

/-- The end of `verify_submit_code`: the code was right, so it is deleted and a token is issued. -/
def redeemSubmitCode (stateId email instanceId : String) (code : CodeId) :
    CodeProg (Option String) := do
  let _ ← ask (.deleteEphemeralState stateId)
  issueSubmitToken libs email instanceId code

/-- `verify_submit_code` with the code's row: write it back with the attempt counted, then
compare. -/
def trySubmitCode (stateId email instanceId code : String) (state : EphemeralState)
    (payload : SubmitCodePayload) : CodeProg (Option String) := do
  let _ ← ask (.putEphemeralState stateId submitCodeStateKind
    (.submitCode { payload with attempts := payload.attempts + 1 }) state.expiresAt
    (some state.code))
  let same ← ask (.compareHash state.code payload.codeHash (libs.sha256Hex code))
  if same then redeemSubmitCode libs stateId email instanceId state.code else return none

/-- Delete the row and answer `None`: the code is expired or was tried too often. -/
def burnSubmitCode (stateId : String) : CodeProg (Option String) := do
  let _ ← ask (.deleteEphemeralState stateId)
  return none

/-- `verify_submit_code` with the code's row. -/
def checkSubmitCode (stateId email instanceId code : String) (now : ℕ) (state : EphemeralState) :
    CodeProg (Option String) :=
  if state.expiresAt ≤ now then burnSubmitCode stateId
  else match state.payload with
    | .submitCode payload =>
        if loginCodeMaxAttempts ≤ payload.attempts then burnSubmitCode stateId
        else trySubmitCode libs stateId email instanceId code state payload
    | _ => .done none

/-- `verify_submit_code` for a known slug. -/
def verifyInstanceSubmitCode (instanceId email code : String) : CodeProg (Option String) := do
  let now ← ask .clock
  let stateId := submitCodeStateId libs instanceId email
  match ← ask (.getEphemeralState stateId) with
  | .ok (some state) =>
      if state.kind = submitCodeStateKind then
        checkSubmitCode libs stateId email instanceId code now state
      else return none
  | _ => return none

/-- `verify_submit_code`. -/
def verifySubmitCode (slug email code : String) : CodeProg (Option String) := do
  match ← ask (.getInstanceIdBySlug slug) with
  | .ok (some instanceId) => verifyInstanceSubmitCode libs instanceId email code
  | _ => return none

/-! ### The system -/

/-- A call of one of the four mutations. -/
inductive CodeMutation where
  | requestAuthCode (email : String) (turnstileToken remoteIp : Option String)
  | verifyAuthCode (email code : String)
  | requestSubmitCode (slug email : String) (turnstileToken remoteIp : Option String)
  | verifySubmitCode (slug email code : String)

/-- The program of a call. -/
def CodeMutation.prog : CodeMutation → CodeProg Unit
  | .requestAuthCode email token ip => (Microticket.requestAuthCode libs email token ip).void
  | .verifyAuthCode email code => (Microticket.verifyAuthCode libs email code).void
  | .requestSubmitCode slug email token ip =>
      (Microticket.requestSubmitCode libs slug email token ip).void
  | .verifySubmitCode slug email code => (Microticket.verifySubmitCode libs slug email code).void

/-- The programs that take part in a run. -/
def IsCodeMutation (p : CodeProg Unit) : Prop := ∃ m : CodeMutation, p = m.prog libs

/-- A pool reached by any interleaving of the four mutations, from empty tables. -/
def CodeReachable (readOnly reliable : Bool) (c : Pool (codeService readOnly reliable) Empty Unit) :
    Prop :=
  Run (codeService readOnly reliable) (IsCodeMutation libs) (Pool.init ⟨⟨⟨∅, ∅, []⟩, []⟩, []⟩) c

end Microticket

import Microticket.Digits
import Microticket.FlowContracts

/-! # Who stored a row

Every row of `ephemeral_state`, every login code and every user token is followed to the call that
stored it (`Origin`, `StoresLoginCode`, `StoresUserToken`), through every version of the tables and
every answer to a read (`FlowInv`), along with what was drawn (`FlowDraws`). -/

namespace Microticket

open Interleaving Tables RustText

section provenance
variable (libs : FlowLibs) (calls : ℕ → FlowCall) (evs : List FlowEvent)

/-! ### Who stored what -/

/-- Call `j` requested a login code for the normalized `email`, drew `code`, and sent the write that
stores its hash. -/
structure StoresLoginCode (j : ℕ) (email code : String) : Prop where
  call : ∃ raw token ip, calls j = .code (.requestAuthCode raw token ip) ∧
    normalizeUserEmail libs.toCodeLibs raw = .ok email
  drew : ⟨j, .code (.generateCode loginCodeDigits), code⟩ ∈ evs
  put : ∃ expiresAt now r,
    ⟨j, .code (.putLoginCode email (libs.sha256Hex code) expiresAt now), r⟩ ∈ evs

/-- Call `j` requested a submit code for `email` and a slug of the instance, drew `code`, and sent
the write that stores its hash. -/
structure StoresSubmitCode (j : ℕ) (instanceId email code : String) : Prop where
  call : ∃ slug token ip, calls j = .code (.requestSubmitCode slug email token ip) ∧
    ⟨j, .code (.getInstanceIdBySlug slug), .ok (some instanceId)⟩ ∈ evs
  drew : ⟨j, .code (.generateCode loginCodeDigits), code⟩ ∈ evs
  put : ∃ payload expiresAt id r, payload.codeHash = libs.sha256Hex code ∧
    ⟨j, .code (.putEphemeralState (submitCodeStateId libs.toCodeLibs instanceId email)
      submitCodeStateKind (.submitCode payload) expiresAt id), r⟩ ∈ evs

/-- Call `j` verified a submit code for `email` and a slug of the instance, and drew the nonce of
the token `secret`. -/
structure DrawsSubmitToken (j : ℕ) (instanceId email secret : String) : Prop where
  call : ∃ slug code, calls j = .code (.verifySubmitCode slug email code) ∧
    ⟨j, .code (.getInstanceIdBySlug slug), .ok (some instanceId)⟩ ∈ evs
  drew : ∃ nonce, ⟨j, .code (.generateNonce 16), nonce⟩ ∈ evs ∧ secret = "mts_" ++ nonce

/-- Call `j` approved an authorization and drew `code`. -/
structure DrawsAuthorizationCode (j : ℕ) (code : String) : Prop where
  call : ∃ auth clientId redirectUri codeChallenge codeChallengeMethod scope resource state,
    calls j = .oauth (.approveOAuthAuthorization auth clientId redirectUri codeChallenge
      codeChallengeMethod scope resource state)
  drew : ⟨j, .oauth (.generateNonce 32), code⟩ ∈ evs

/-- Call `j` began a registration for the user and drew the id of its challenge. -/
structure DrawsRegistration (j : ℕ) (userId id : String) : Prop where
  call : ∃ memberships isSuperuser,
    calls j = .passkey (.beginPasskeyRegistration (some (.user userId memberships isSuperuser)))
  drew : ⟨j, .passkey .randomId, id⟩ ∈ evs

/-- Call `j` began a login and drew the id of its challenge. -/
structure DrawsLogin (j : ℕ) (id : String) : Prop where
  call : calls j = .passkey .beginPasskeyLogin
  drew : ⟨j, .passkey .randomId, id⟩ ∈ evs

/-- A user token with this hash was drawn. -/
def StoresUserToken (hash : String) : Prop :=
  ∃ j nonce, (⟨j, .code (.generateNonce 32), nonce⟩ ∈ evs ∨
    ⟨j, .passkey (.generateNonce 32), nonce⟩ ∈ evs) ∧ hash = libs.sha256Hex ("mtu_" ++ nonce)

/-- The call that stored a row. -/
inductive Origin (row : EphemeralRow) : Prop
  | submitCode {j instanceId email code payload}
      (hstores : StoresSubmitCode libs calls evs j instanceId email code)
      (hid : row.id = submitCodeStateId libs.toCodeLibs instanceId email)
      (hkind : row.kind = submitCodeStateKind)
      (hpayload : row.payload = libs.serializeSubmitCode payload)
      (hhash : payload.codeHash = libs.sha256Hex code)
  | submitToken {j instanceId email secret}
      (hdraws : DrawsSubmitToken calls evs j instanceId email secret)
      (hid : row.id = submitTokenStateId (libs.sha256Hex secret))
      (hkind : row.kind = submitTokenStateKind)
      (hpayload : row.payload = libs.serializeSubmitToken email instanceId)
  | authorizationCode {j code} (hdraws : DrawsAuthorizationCode calls evs j code)
      (hid : row.id = oauthCodeStateId (libs.sha256Hex code)) (hkind : row.kind = oauthCodeStateKind)
  | registration {j userId state} (hdraws : DrawsRegistration calls evs j userId row.id)
      (hkind : row.kind = "reg")
      (hpayload : row.payload = libs.serializeWebauthnState (some userId) (.registration state))
  | login {j} (hdraws : DrawsLogin calls evs j row.id) (hkind : row.kind = "auth")

/-- What the answer to a read says of the calls before it. -/
def ReadOk : FlowEvent → Prop
  | ⟨_, .code (.getEphemeralState id), .ok (some state)⟩ =>
      ∃ row, Origin libs calls evs row ∧ row.id = id ∧ state = row.codeState libs
  | ⟨_, .oauth (.getEphemeralState id), .ok (some row)⟩ => Origin libs calls evs row ∧ row.id = id
  | ⟨_, .session (.oauth (.getEphemeralState id)), .ok (some row)⟩ =>
      Origin libs calls evs row ∧ row.id = id
  | ⟨_, .passkey (.getWebauthnState id), .ok (some state)⟩ =>
      ∃ row, Origin libs calls evs row ∧ row.id = id ∧ (row.stateRow libs).state = .ok state
  | ⟨_, .code (.getLoginCode email), .ok (some record)⟩ =>
      ∃ j code, StoresLoginCode libs calls evs j email code ∧ record.codeHash = libs.sha256Hex code
  | ⟨_, .session (.getUserTokenByHash hash), .ok (some _)⟩ => StoresUserToken libs evs hash
  | ⟨_, .code (.compareHash _ stored given), true⟩ => stored = given
  | ⟨_, .code (.getInstanceIdBySlug _), .ok (some id)⟩ => ':' ∉ id.toList
  | ⟨_, .code (.generateCode digits), code⟩ => 0 < digits → code.length = digits
  | _ => True

end provenance

/-! ### What was drawn -/

/-- The nonce or id that a request has drawn. -/
def drawnBy : FlowEvent → Option String
  | ⟨_, .code (.generateNonce 16), nonce⟩ | ⟨_, .code (.generateNonce 32), nonce⟩
  | ⟨_, .oauth (.generateNonce 32), nonce⟩ | ⟨_, .passkey (.generateNonce 32), nonce⟩ => some nonce
  | ⟨_, .passkey .randomId, id⟩ => some id
  | _ => none

/-- Its length. -/
def FlowOp.drawLength : FlowOp → ℕ
  | .code (.generateNonce 16) => 22
  | .passkey .randomId => 32
  | _ => 43

/-- Nothing was drawn twice, and everything has its form. -/
structure FlowDraws (evs : List FlowEvent) (drawn : List String) : Prop where
  mem : ∀ ev ∈ evs, ∀ s, drawnBy ev = some s → s ∈ drawn
  once : ∀ ev ∈ evs, ∀ ev' ∈ evs, ∀ s, drawnBy ev = some s → drawnBy ev' = some s →
    ev.caller = ev'.caller ∧ ev.op = ev'.op
  form : ∀ ev ∈ evs, ∀ s, drawnBy ev = some s → '.' ∉ s.toList ∧ s.length = ev.op.drawLength

section draws
variable {libs : FlowLibs} {readOnly : Bool} {s : FlowStore} {e : FlowEnv} {op : FlowOp} {i : ℕ}

/-- What a request draws was on offer. -/
theorem drawnBy_serve (hdraws : e.Draws s.drawn) {x : String}
    (h : drawnBy ⟨i, op, (s.serve libs e readOnly op).1⟩ = some x) :
    x ∉ s.drawn ∧ x ∈ (s.serve libs e readOnly op).2.drawn ∧ '.' ∉ x.toList ∧
      x.length = op.drawLength := by
  obtain ⟨hid, hshort, hlong, hidLength, hshortLength, hlongLength, hidForm, hshortForm,
    hlongForm⟩ := hdraws
  rw [FlowStore.serve_drawn]
  have hshortMem : e.nonce 16 ∈ e.id :: e.nonce 16 :: e.nonce 32 :: s.drawn := by simp
  have hlongMem : e.nonce 32 ∈ e.id :: e.nonce 16 :: e.nonce 32 :: s.drawn := by simp
  unfold drawnBy at h
  split at h
  · rename_i heq
    cases heq
    cases h
    exact ⟨hshort, hshortMem, hshortForm, hshortLength⟩
  · rename_i heq
    cases heq
    cases h
    exact ⟨hlong, hlongMem, hlongForm, hlongLength⟩
  · rename_i heq
    cases heq
    cases h
    exact ⟨hlong, hlongMem, hlongForm, hlongLength⟩
  · rename_i heq
    cases heq
    cases h
    exact ⟨hlong, hlongMem, hlongForm, hlongLength⟩
  · rename_i heq
    cases heq
    cases h
    exact ⟨hid, List.mem_cons_self, hidForm, hidLength⟩
  · cases h

/-- A request keeps the form of what was drawn. -/
theorem FlowDraws.serve {evs : List FlowEvent} (hevs : FlowDraws evs s.drawn)
    (hdraws : e.Draws s.drawn) : FlowDraws (evs ++ [⟨i, op, (s.serve libs e readOnly op).1⟩])
      (s.serve libs e readOnly op).2.drawn := by
  have hnew : ∀ {ev x}, ev ∈ evs ++ [⟨i, op, (s.serve libs e readOnly op).1⟩] →
      drawnBy ev = some x → ev ∈ evs ∧ x ∈ s.drawn ∨
        ev = ⟨i, op, (s.serve libs e readOnly op).1⟩ ∧ x ∉ s.drawn := by
    intro ev x hev hx
    rcases List.mem_append.mp hev with hev | hev
    · exact .inl ⟨hev, hevs.mem ev hev x hx⟩
    · obtain rfl := List.mem_singleton.mp hev
      exact .inr ⟨rfl, (drawnBy_serve hdraws hx).1⟩
  refine ⟨fun ev hev x hx => ?_, fun ev hev ev' hev' x hx hx' => ?_, fun ev hev x hx => ?_⟩
  · rcases hnew hev hx with ⟨-, hold⟩ | ⟨rfl, -⟩
    · rw [FlowStore.serve_drawn]
      simp [hold]
    · exact (drawnBy_serve hdraws hx).2.1
  · rcases hnew hev hx with ⟨hold, hmem⟩ | ⟨rfl, hfresh⟩
    · rcases hnew hev' hx' with ⟨hold', -⟩ | ⟨-, hfresh⟩
      · exact hevs.once ev hold ev' hold' x hx hx'
      · exact absurd hmem hfresh
    · rcases hnew hev' hx' with ⟨-, hmem⟩ | ⟨rfl, -⟩
      · exact absurd hmem hfresh
      · exact ⟨rfl, rfl⟩
  · rcases hnew hev hx with ⟨hold, -⟩ | ⟨rfl, -⟩
    · exact hevs.form ev hold x hx
    · exact (drawnBy_serve hdraws hx).2.2

end draws

/-! ### What later requests keep -/

section mono
variable {libs : FlowLibs} {calls : ℕ → FlowCall} {evs evs' : List FlowEvent} {j : ℕ}
variable {instanceId email code secret userId hash : String} {row : EphemeralRow} {ev : FlowEvent}

theorem StoresLoginCode.mono (h : StoresLoginCode libs calls evs j email code) (hsub : evs ⊆ evs') :
    StoresLoginCode libs calls evs' j email code := by
  obtain ⟨expiresAt, now, r, hput⟩ := h.put
  exact ⟨h.call, hsub h.drew, expiresAt, now, r, hsub hput⟩

theorem StoresSubmitCode.mono (h : StoresSubmitCode libs calls evs j instanceId email code)
    (hsub : evs ⊆ evs') : StoresSubmitCode libs calls evs' j instanceId email code := by
  obtain ⟨slug, token, ip, hcall, hinst⟩ := h.call
  obtain ⟨payload, expiresAt, id, r, hhash, hput⟩ := h.put
  exact ⟨⟨slug, token, ip, hcall, hsub hinst⟩, hsub h.drew, payload, expiresAt, id, r, hhash,
    hsub hput⟩

theorem DrawsSubmitToken.mono (h : DrawsSubmitToken calls evs j instanceId email secret)
    (hsub : evs ⊆ evs') : DrawsSubmitToken calls evs' j instanceId email secret := by
  obtain ⟨slug, code, hcall, hinst⟩ := h.call
  obtain ⟨nonce, hnonce, rfl⟩ := h.drew
  exact ⟨⟨slug, code, hcall, hsub hinst⟩, nonce, hsub hnonce, rfl⟩

theorem StoresUserToken.mono (h : StoresUserToken libs evs hash) (hsub : evs ⊆ evs') :
    StoresUserToken libs evs' hash := by
  obtain ⟨j, nonce, hdrew, hhash⟩ := h
  exact ⟨j, nonce, hdrew.imp (hsub ·) (hsub ·), hhash⟩

theorem Origin.mono (h : Origin libs calls evs row) (hsub : evs ⊆ evs') :
    Origin libs calls evs' row := by
  cases h with
  | submitCode hstores hid hkind hpayload hhash =>
      exact .submitCode (hstores.mono hsub) hid hkind hpayload hhash
  | submitToken hdraws hid hkind hpayload =>
      exact .submitToken (hdraws.mono hsub) hid hkind hpayload
  | authorizationCode hdraws hid hkind =>
      exact .authorizationCode ⟨hdraws.call, hsub hdraws.drew⟩ hid hkind
  | registration hdraws hkind hpayload =>
      exact .registration ⟨hdraws.call, hsub hdraws.drew⟩ hkind hpayload
  | login hdraws hkind => exact .login ⟨hdraws.call, hsub hdraws.drew⟩ hkind

theorem ReadOk.mono (h : ReadOk libs calls evs ev) (hsub : evs ⊆ evs') :
    ReadOk libs calls evs' ev := by
  unfold ReadOk at h ⊢
  split at h
  · obtain ⟨row, horigin, hrow⟩ := h
    exact ⟨row, horigin.mono hsub, hrow⟩
  · exact ⟨h.1.mono hsub, h.2⟩
  · exact ⟨h.1.mono hsub, h.2⟩
  · obtain ⟨row, horigin, hrow⟩ := h
    exact ⟨row, horigin.mono hsub, hrow⟩
  · obtain ⟨j, code, hstores, hhash⟩ := h
    exact ⟨j, code, hstores.mono hsub, hhash⟩
  · exact h.mono hsub
  · exact h
  · exact h
  · exact h
  · trivial

end mono

/-! ### What a request stores -/

section stores
variable {libs : FlowLibs} {calls : ℕ → FlowCall} {evs : List FlowEvent} {i : ℕ}
variable {h : List FlowEvent} {op : FlowOp} {row : EphemeralRow}

theorem mem_flowOfCode {h : List CodeEvent} (hsub : h.map flowOfCode ⊆ evs) {op : CodeOp}
    {r : op.Res} (hev : ⟨i, op, r⟩ ∈ h) : ⟨i, .code op, r⟩ ∈ evs :=
  hsub (List.mem_map_of_mem hev)

theorem mem_flowOfOAuth {h : List OAuthEvent} (hsub : h.map flowOfOAuth ⊆ evs) {op : OAuthOp}
    {r : op.Res} (hev : ⟨i, op, r⟩ ∈ h) : ⟨i, .oauth op, r⟩ ∈ evs :=
  hsub (List.mem_map_of_mem hev)

theorem mem_flowOfPasskey {h : List PasskeyEvent} (hsub : h.map flowOfPasskey ⊆ evs)
    {op : PasskeyOp} {r : op.Res} (hev : ⟨i, op, r⟩ ∈ h) : ⟨i, .passkey op, r⟩ ∈ evs :=
  hsub (List.mem_map_of_mem hev)

theorem mem_flowOfSession {h : List SessionEvent} (hsub : h.map flowOfSession ⊆ evs)
    {op : SessionOp} {r : op.Res} (hev : ⟨i, op, r⟩ ∈ h) : ⟨i, .session op, r⟩ ∈ evs :=
  hsub (List.mem_map_of_mem hev)

/-- A quiet request stores and deletes nothing. -/
structure FlowOp.Inert (libs : FlowLibs) (op : FlowOp) : Prop where
  puts : op.puts libs = none
  deletes : op.deletes = none
  storesToken : op.storesToken = none

theorem CodeOp.inert (libs : FlowLibs) {op : CodeOp} (hquiet : op.quiet = true) :
    FlowOp.Inert libs (.code op) := by
  cases op <;> first | exact ⟨rfl, rfl, rfl⟩ | cases hquiet

theorem OAuthOp.inert (libs : FlowLibs) {op : OAuthOp} (hquiet : op.quiet = true) :
    FlowOp.Inert libs (.oauth op) := by
  cases op <;> first | exact ⟨rfl, rfl, rfl⟩ | cases hquiet

theorem PasskeyOp.inert (libs : FlowLibs) {op : PasskeyOp} (hquiet : op.quiet = true) :
    FlowOp.Inert libs (.passkey op) := by
  cases op <;> first | exact ⟨rfl, rfl, rfl⟩ | cases hquiet

/-- A row that the submit codes accept was stored for the code whose hash it holds. -/
theorem Origin.submitCode_payload (hlaws : FlowLaws libs) (horigin : Origin libs calls evs row)
    {payload : SubmitCodePayload} (hkind : row.kind = submitCodeStateKind)
    (hpayload : (row.codeState libs).payload = .submitCode payload) :
    ∃ j instanceId email code, StoresSubmitCode libs calls evs j instanceId email code ∧
      row.id = submitCodeStateId libs.toCodeLibs instanceId email ∧
      payload.codeHash = libs.sha256Hex code := by
  cases horigin with
  | submitCode hstores hid hkind' hstored hhash =>
      unfold EphemeralRow.codeState at hpayload
      dsimp only at hpayload
      rw [hstored, hlaws.submitCode] at hpayload
      cases hpayload
      exact ⟨_, _, _, _, hstores, hid, hhash⟩
  | submitToken hdraws hid hkind' => exact absurd (hkind.symm.trans hkind') (by decide)
  | authorizationCode hdraws hid hkind' => exact absurd (hkind.symm.trans hkind') (by decide)
  | registration hdraws hkind' => exact absurd (hkind.symm.trans hkind') (by decide)
  | login hdraws hkind' => exact absurd (hkind.symm.trans hkind') (by decide)

/-- Who puts a row is its origin. -/
theorem FlowCall.Permits.origin (hlaws : FlowLaws libs) (hperm : (calls i).Permits i libs h op)
    (hsub : h ⊆ evs) (hreads : ∀ ev ∈ evs, ReadOk libs calls evs ev) (r : op.Res)
    (hputs : op.puts libs = some row) : Origin libs calls (evs ++ [⟨i, op, r⟩]) row := by
  have hlast : (⟨i, op, r⟩ : FlowEvent) ∈ evs ++ [⟨i, op, r⟩] := List.mem_concat_self
  have hmore : h ⊆ evs ++ [⟨i, op, r⟩] := fun ev hev => List.mem_append_left _ (hsub hev)
  generalize hcall : calls i = call at hperm
  cases hperm with
  | session => cases hputs
  | code hop =>
      cases hop with
      | quiet hquiet =>
          rw [(CodeOp.inert libs hquiet).puts] at hputs
          cases hputs
      | storesSubmitCode hinst hcode hhash =>
          cases hputs
          exact .submitCode ⟨⟨_, _, _, hcall, mem_flowOfCode hmore hinst⟩, mem_flowOfCode hmore hcode,
            _, _, _, r, hhash, hlast⟩ rfl rfl rfl hhash
      | countsAttempt hinst hread hkind hpayload =>
          cases hputs
          have hok := hreads _ (mem_flowOfCode hsub hread)
          obtain ⟨row, horigin, hid, rfl⟩ := hok
          obtain ⟨j, instanceId, email, code, hstores, hid', hhash⟩ :=
            horigin.submitCode_payload hlaws hkind hpayload
          exact .submitCode (hstores.mono (List.subset_append_left _ _)) (hid.symm.trans hid') rfl rfl
            hhash
      | storesSubmitToken hinst hnonce =>
          cases hputs
          exact .submitToken ⟨⟨_, _, hcall, mem_flowOfCode hmore hinst⟩, _,
            mem_flowOfCode hmore hnonce, rfl⟩ rfl rfl rfl
      | _ => cases hputs
  | oauth hop =>
      cases hop with
      | quiet hquiet =>
          rw [(OAuthOp.inert libs hquiet).puts] at hputs
          cases hputs
      | storesCode hnonce =>
          cases hputs
          exact .authorizationCode ⟨⟨_, _, _, _, _, _, _, _, hcall⟩, mem_flowOfOAuth hmore hnonce⟩
            (by rw [hlaws.oauthHash]) rfl
      | deletesCode => cases hputs
  | passkey hop =>
      cases hop with
      | quiet hquiet =>
          rw [(PasskeyOp.inert libs hquiet).puts] at hputs
          cases hputs
      | storesRegistration hid =>
          cases hputs
          exact .registration ⟨⟨_, _, hcall⟩, mem_flowOfPasskey hmore hid⟩ rfl rfl
      | storesLogin hid =>
          cases hputs
          exact .login ⟨hcall, mem_flowOfPasskey hmore hid⟩ rfl
      | _ => cases hputs

/-- Who stores a login code has drawn it. -/
theorem FlowCall.Permits.storesLogin {email hash : String} {expiresAt now : ℕ}
    {r : Except DbError Unit}
    (hperm : (calls i).Permits i libs h (.code (.putLoginCode email hash expiresAt now)))
    (hsub : h ⊆ evs) : ∃ code, StoresLoginCode libs calls
      (evs ++ [⟨i, .code (.putLoginCode email hash expiresAt now), r⟩]) i email code ∧
        hash = libs.sha256Hex code := by
  generalize hcall : calls i = call at hperm
  cases hperm with
  | code hop =>
      cases hop with
      | quiet hquiet => cases hquiet
      | storesLoginCode hemail hcode =>
          exact ⟨_, ⟨⟨_, _, _, hcall, hemail⟩, List.mem_append_left _ (mem_flowOfCode hsub hcode),
            expiresAt, now, r, List.mem_concat_self⟩, rfl⟩

/-- Who stores a user token has drawn it. -/
theorem FlowCall.Permits.storesUserToken (hlaws : FlowLaws libs) {hash : String}
    (hperm : (calls i).Permits i libs h op) (hsub : h ⊆ evs)
    (hstores : op.storesToken = some hash) : StoresUserToken libs evs hash := by
  generalize hcall : calls i = call at hperm
  cases hperm with
  | session => cases hstores
  | code hop =>
      cases hop with
      | quiet hquiet =>
          rw [(CodeOp.inert libs hquiet).storesToken] at hstores
          cases hstores
      | storesUserToken hnonce =>
          cases hstores
          exact ⟨i, _, .inl (mem_flowOfCode hsub hnonce), rfl⟩
      | _ => cases hstores
  | oauth hop => cases hstores
  | passkey hop =>
      cases hop with
      | quiet hquiet =>
          rw [(PasskeyOp.inert libs hquiet).storesToken] at hstores
          cases hstores
      | storesUserToken hnonce =>
          cases hstores
          exact ⟨i, _, .inr (mem_flowOfPasskey hsub hnonce), by rw [hlaws.webauthnHash]⟩
      | _ => cases hstores

end stores

/-! ### The invariant -/

section invariant
variable {libs : FlowLibs} {readOnly : Bool} {calls : ℕ → FlowCall} {i : ℕ} {e : FlowEnv}
variable {op : FlowOp}

/-- What holds of the tables and of the answers so far. -/
structure FlowInv (libs : FlowLibs) (calls : ℕ → FlowCall) (s : FlowStore) (evs : List FlowEvent) :
    Prop where
  states : ∀ d, s.db.Committed d → ∀ id row, d.states.lookup id = some row →
    row.id = id ∧ Origin libs calls evs row
  logins : ∀ d, s.db.Committed d → ∀ email record,
    d.loginCodes.lookup email = some (.complete record) →
      ∃ j code, StoresLoginCode libs calls evs j email code ∧ record.codeHash = libs.sha256Hex code
  tokens : ∀ d, s.db.Committed d → ∀ id row, d.userTokens.lookup id = some row →
    StoresUserToken libs evs row.tokenHash
  reads : ∀ ev ∈ evs, ReadOk libs calls evs ev
  draws : FlowDraws evs s.drawn

variable {s : FlowStore} {evs : List FlowEvent}

theorem FlowInv.init : FlowInv libs calls emptyFlowStore [] := by
  have hempty : ∀ {d}, emptyFlowStore.db.Committed d → d = ⟨∅, ∅, ∅⟩ := List.mem_singleton.mp
  have hnone : ∀ {P : FlowEvent → Prop}, ∀ ev ∈ ([] : List FlowEvent), P ev :=
    fun _ hev => absurd hev List.not_mem_nil
  refine ⟨?_, ?_, ?_, hnone, hnone, hnone, hnone⟩
  · intro d hd id row hrow
    rw [hempty hd] at hrow
    cases hrow
  · intro d hd id row hrow
    rw [hempty hd] at hrow
    cases hrow
  · intro d hd id row hrow
    rw [hempty hd] at hrow
    cases hrow

/-- The answer to a request agrees with the tables. -/
theorem FlowInv.readOk (hinv : FlowInv libs calls s evs) (hallowed : e.NamesInstance) :
    ReadOk libs calls evs ⟨i, op, (s.serve libs e readOnly op).1⟩ := by
  have hseen := s.db.committed_seen e.lag
  generalize hev : (⟨i, op, (s.serve libs e readOnly op).1⟩ : FlowEvent) = ev
  unfold ReadOk
  split
  · rename_i id state
    obtain ⟨rfl, rfl, heq⟩ := Event.mk.inj hev
    have hanswer := Except.ok.inj (Fault.read_ok (eq_of_heq heq))
    obtain ⟨row, hrow, rfl⟩ := Option.map_eq_some_iff.mp hanswer
    obtain ⟨hid, horigin⟩ := hinv.states _ hseen id row hrow
    exact ⟨row, horigin, hid, rfl⟩
  · rename_i id row
    obtain ⟨rfl, rfl, heq⟩ := Event.mk.inj hev
    exact (hinv.states _ hseen id row (Except.ok.inj (Fault.read_ok (eq_of_heq heq)))).symm
  · rename_i id row
    obtain ⟨rfl, rfl, heq⟩ := Event.mk.inj hev
    exact (hinv.states _ hseen id row (Except.ok.inj (Fault.read_ok (eq_of_heq heq)))).symm
  · rename_i id state
    obtain ⟨rfl, rfl, heq⟩ := Event.mk.inj hev
    have hanswer := Fault.read_ok (eq_of_heq heq)
    cases hrow : (s.db.seen e.lag).states.lookup id with
    | none =>
        rw [hrow] at hanswer
        cases hanswer
    | some row =>
        rw [hrow] at hanswer
        obtain ⟨state', hstate, hsome⟩ := except_map_ok hanswer
        cases hsome
        obtain ⟨hid, horigin⟩ := hinv.states _ hseen id row hrow
        exact ⟨row, horigin, hid, hstate⟩
  · rename_i email record
    obtain ⟨rfl, rfl, heq⟩ := Event.mk.inj hev
    have hanswer := Fault.read_ok (eq_of_heq heq)
    unfold CodeDb.getLoginCode at hanswer
    split at hanswer
    · cases hanswer
    · rename_i record' hrow
      cases hanswer
      exact hinv.logins _ hseen email record hrow
    · cases hanswer
  · rename_i hash row
    obtain ⟨rfl, rfl, heq⟩ := Event.mk.inj hev
    obtain ⟨id, hrow, rfl⟩ := userTokenByHash_some (Fault.read_ok (eq_of_heq heq))
    exact hinv.tokens _ hseen id row hrow
  · rename_i code stored given
    obtain ⟨rfl, rfl, heq⟩ := Event.mk.inj hev
    exact eq_of_beq (eq_of_heq heq)
  · rename_i slug id
    obtain ⟨rfl, rfl, heq⟩ := Event.mk.inj hev
    have hanswer : e.instanceId = .ok (some id) := eq_of_heq heq
    exact hallowed id (by rw [hanswer]; rfl)
  · rename_i digits code
    obtain ⟨rfl, rfl, heq⟩ := Event.mk.inj hev
    intro hdigits
    obtain rfl := (eq_of_heq heq).symm
    rw [← String.length_toList]
    exact zeroPadded_length hdigits (Nat.mod_lt _ (by positivity))
  · trivial

/-- A permitted request keeps the invariant. -/
theorem FlowInv.serve (hlaws : FlowLaws libs) (hinv : FlowInv libs calls s evs) {h : List FlowEvent}
    (hsub : h ⊆ evs) (hdraws : e.Draws s.drawn) (hallowed : e.NamesInstance)
    (hperm : (calls i).Permits i libs h op) :
    FlowInv libs calls (s.serve libs e readOnly op).2
      (evs ++ [⟨i, op, (s.serve libs e readOnly op).1⟩]) := by
  have hmore : evs ⊆ evs ++ [⟨i, op, (s.serve libs e readOnly op).1⟩] :=
    List.subset_append_left _ _
  -- a committed version is an old one, or the request has changed the latest one
  have hversion : ∀ d, (s.serve libs e readOnly op).2.db.Committed d →
      s.db.Committed d ∨ s.db.now.change libs e op = .ok d := by
    intro d hd
    rcases s.serve_db libs e readOnly op with heq | ⟨d', hd', heq⟩
    · rw [heq] at hd
      exact .inl hd
    · rw [heq] at hd
      rcases List.mem_cons.mp hd with rfl | hold
      · exact .inr hd'
      · exact .inl hold
  have hnow := s.db.committed_now
  refine ⟨fun d hd id row hrow => ?_, fun d hd email record hrow => ?_, fun d hd id row hrow => ?_,
    fun ev hev => ?_, hinv.draws.serve hdraws⟩
  · have hold : ∀ d', s.db.Committed d' → d'.states.lookup id = some row → row.id = id ∧
        Origin libs calls (evs ++ [⟨i, op, (s.serve libs e readOnly op).1⟩]) row := by
      intro d' hd' hrow'
      obtain ⟨hid, horigin⟩ := hinv.states d' hd' id row hrow'
      exact ⟨hid, horigin.mono hmore⟩
    rcases hversion d hd with hd | hd
    · exact hold d hd hrow
    · rcases FlowDb.change_states hd hrow with hrow | ⟨hputs, hid⟩
      · exact hold _ hnow hrow
      · exact ⟨hid, hperm.origin hlaws hsub hinv.reads _ hputs⟩
  · have hold : ∀ d', s.db.Committed d' → ∀ record', d'.loginCodes.lookup email =
        some (.complete record') → record'.codeHash = record.codeHash →
        ∃ j code, StoresLoginCode libs calls (evs ++ [⟨i, op, (s.serve libs e readOnly op).1⟩]) j
          email code ∧ record.codeHash = libs.sha256Hex code := by
      intro d' hd' record' hrow' hhash'
      obtain ⟨j, code, hstores, hhash⟩ := hinv.logins d' hd' email record' hrow'
      exact ⟨j, code, hstores.mono hmore, hhash'.symm.trans hhash⟩
    rcases hversion d hd with hd | hd
    · exact hold d hd record hrow rfl
    · rcases FlowDb.change_logins hd hrow with ⟨old, hrow, hhash⟩ | ⟨expiresAt, now, rfl⟩
      · exact hold _ hnow old hrow hhash
      · obtain ⟨code, hstores⟩ := hperm.storesLogin hsub
        exact ⟨i, code, hstores⟩
  · have hold : ∀ d', s.db.Committed d' → ∀ id' row', d'.userTokens.lookup id' = some row' →
        row'.tokenHash = row.tokenHash → StoresUserToken libs
          (evs ++ [⟨i, op, (s.serve libs e readOnly op).1⟩]) row.tokenHash := by
      intro d' hd' id' row' hrow' hhash'
      rw [← hhash']
      exact (hinv.tokens d' hd' id' row' hrow').mono hmore
    rcases hversion d hd with hd | hd
    · exact hold d hd id row hrow rfl
    · rcases FlowDb.change_tokens hd hrow with ⟨id', old, hrow, hhash⟩ | hstores
      · exact hold _ hnow id' old hrow hhash
      · exact (hperm.storesUserToken hlaws hsub hstores).mono hmore
  · rcases List.mem_append.mp hev with hev | hev
    · exact (hinv.reads ev hev).mono hmore
    · rw [List.mem_singleton.mp hev]
      exact (hinv.readOk hallowed).mono hmore

end invariant

end Microticket

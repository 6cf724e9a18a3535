import Microticket.CodeInvariant

/-! # The code mutations follow the discipline

Every call of the four mutations is secure for `codeDiscipline`: the two that request a code send
free requests only, and the two that verify one go through the phases `Idle`, `Loaded`, `Tried`,
`Matched` and `Won` of `CodeInvariant`.  So the invariant holds in every reachable pool
(`CodeReachable.holds`), and rows of old codes only fade along a run (`CodeReachable.fades`). -/

namespace Microticket

open Interleaving Tables

section
variable {readOnly : Bool} {i : ℕ} {t : Trace (codeService readOnly true)} {α β : Type}

/-- One request, whose rules are known when it is served. -/
theorem secure_ask {op : CodeOp} {f : op.Res → CodeProg β}
    (hop : ∀ t', CodeRely i t t' → CodeInvariant t' → op.Follows i t')
    (hf : ∀ t', CodeRely i t t' → CodeInvariant t' → ∀ e,
      (codeDiscipline readOnly).Secure i (f (CodeStore.serve t'.state e readOnly true op).1)
        (t'.serve i e op)) :
    (codeDiscipline readOnly).Secure i (ask op >>= f) t :=
  fun _ hr hi => ⟨hop _ hr hi, fun e _ => hf _ hr hi e⟩

/-- A free request keeps what is stable. -/
theorem secure_free {K : Trace (codeService readOnly true) → Prop}
    (hrely : ∀ {t t'}, K t → CodeRely i t t' → K t')
    (hserve : ∀ {t e op}, K t → CodeOp.Free op → K (t.serve i e op)) {op : CodeOp} (hop : op.Free)
    (h : K t) {f : op.Res → CodeProg β}
    (hf : ∀ r t', K t' → (codeDiscipline readOnly).Secure i (f r) t') :
    (codeDiscipline readOnly).Secure i (ask op >>= f) t :=
  secure_ask (fun _ _ _ => hop.follows) fun _ hr _ _ => hf _ _ (hserve (hrely h hr) hop)

theorem all_ask {P : CodeOp → Prop} {op : CodeOp} (h : P op) : (ask op).All P :=
  ⟨h, fun _ => trivial⟩

theorem secure_all_free {p : CodeProg α} (hp : p.All CodeOp.Free) :
    (codeDiscipline readOnly).Secure i p t :=
  .of_all (fun _ h _ _ => h.follows) hp t

/-! ### Tokens -/

theorem secure_issueUserToken (libs : CodeLibs) (userId : String) {code : CodeId}
    (h : Won i code t) :
    (codeDiscipline readOnly).Secure i (issueUserToken libs userId code) t := by
  have hnonce : (CodeOp.generateNonce 32).Free := trivial
  have hclock : CodeOp.clock.Free := trivial
  refine secure_free .rely .serve hnonce h fun nonce t₁ h₁ => ?_
  refine secure_free .rely .serve hclock h₁ fun now t₂ h₂ => ?_
  refine secure_ask (fun t₃ hr _ => ?_) fun t₃ _ _ e => ?_
  · have honly : CodeOp.Only (.createUserToken (libs.sha256Hex ("mtu_" ++ nonce)) userId
        (now + userTokenExpireS) code) False False False True := by
      constructor <;> intro _ _ <;> trivial
    exact (h₂.rely hr).follows honly fun hx => (of_decide_eq_true hx).symm
  · split <;> trivial

theorem secure_issueSubmitToken (libs : CodeLibs) (email instanceId : String) {code : CodeId}
    (h : Won i code t) :
    (codeDiscipline readOnly).Secure i (issueSubmitToken libs email instanceId code) t := by
  have hnonce : (CodeOp.generateNonce 16).Free := trivial
  have hclock : CodeOp.clock.Free := trivial
  refine secure_free .rely .serve hnonce h fun nonce t₁ h₁ => ?_
  refine secure_free .rely .serve hclock h₁ fun now t₂ h₂ => ?_
  refine secure_ask (fun t₃ hr _ => ?_) fun t₃ _ _ e => ?_
  · have honly : CodeOp.Only (.putEphemeralState (submitTokenStateId (libs.sha256Hex
        ("mts_" ++ nonce))) submitTokenStateKind (.submitToken email instanceId)
        (now + requesterSubmitTokenExpireS) (some code)) False False False True := by
      constructor <;> intro x hx <;> try trivial
      exact absurd (of_decide_eq_true hx).2 (by decide)
    exact (h₂.rely hr).follows honly fun hx => (of_decide_eq_true hx).1.symm
  · split <;> trivial

/-! ### Login codes -/

theorem enabledUser_free (email : String) : (enabledUser email).All CodeOp.Free := by
  have huserId : (CodeOp.getUserIdByEmail email).Free := trivial
  refine .bind (all_ask huserId) fun r => ?_
  split
  · rename_i userId
    have huser : (CodeOp.getUser userId).Free := trivial
    refine .bind (all_ask huser) fun r => ?_
    split <;> trivial
  · trivial

theorem requestAuthCode_free (libs : CodeLibs) (email : String)
    (turnstileToken remoteIp : Option String) :
    (requestAuthCode libs email turnstileToken remoteIp).All CodeOp.Free := by
  unfold requestAuthCode
  split
  · trivial
  · rename_i email _
    have hturnstile : (CodeOp.verifyTurnstile turnstileToken remoteIp).Free := trivial
    have hclock : CodeOp.clock.Free := trivial
    have hget : (CodeOp.getLoginCode email).Free := trivial
    have hcode : (CodeOp.generateCode loginCodeDigits).Free := trivial
    refine .bind (all_ask hturnstile) fun r => ?_
    split
    · refine .bind (enabledUser_free email) fun user => ?_
      split
      · refine .bind (all_ask hclock) fun now => .bind (all_ask hget) fun existing => ?_
        split
        · trivial
        · refine .bind (all_ask hcode) fun code => ?_
          have hput : (CodeOp.putLoginCode email (libs.sha256Hex code) (now + loginCodeExpireS)
            now).Free := trivial
          refine .bind (all_ask hput) fun r => ?_
          split
          · trivial
          · have hmail : (CodeOp.sendPlainText email "Your Toolbox login code"
              (codeMail "login" code)).Free := trivial
            exact .bind (all_ask hmail) fun _ => trivial
      · trivial
    · trivial

/-- What a reliable read of `login_code` returns is in the table. -/
theorem getLoginCode_ok {s : CodeStore} {e : CodeEnv} {email : String} {record : LoginCode}
    (h : (s.serve e readOnly true (.getLoginCode email)).1 = .ok (some record)) :
    s.db.now.codeAt (.login email) =
      some ⟨record.code, record.codeHash, record.attempts, record.expiresAt⟩ := by
  have hget : s.db.now.getLoginCode email = .ok (some record) := h
  unfold CodeDb.getLoginCode at hget
  rw [CodeDb.codeAt]
  split at hget
  · cases hget
  · rename_i record' hlookup
    obtain rfl := Option.some.inj (Except.ok.inj hget)
    rw [hlookup]
    rfl
  · cases hget

theorem deleteLoginCode_only (email : String) :
    (CodeOp.deleteLoginCode email).Only False False True False := by
  constructor <;> intro _ _ <;> trivial

theorem secure_burnLoginCode (email : String) (h : Idle i t) :
    (codeDiscipline readOnly).Secure i (burnLoginCode email) t := by
  refine secure_ask (fun t₁ hr _ => ?_) fun _ _ _ _ => trivial
  exact Idle.follows (h.rely hr) (deleteLoginCode_only email)

theorem secure_redeemLoginCode (libs : CodeLibs) {email : String} {record : LoginCode}
    {row : CodeRow} (hcode : row.code = record.code) (hkey : record.code.key = .login email)
    (h : Matched i row t) :
    (codeDiscipline readOnly).Secure i (redeemLoginCode libs email record) t := by
  have honly := deleteLoginCode_only email
  have hdelete : (CodeOp.deleteLoginCode email).deletes row.code.key := by
    rw [hcode]
    exact decide_eq_true hkey
  refine secure_ask (fun t₁ hr _ => (h.rely hr).follows honly) fun t₁ hr _ e => ?_
  have hwon : Won i record.code (t₁.serve i e (.deleteLoginCode email)) :=
    hcode ▸ (h.rely hr).serve hdelete honly
  have huser : (codeDiscipline readOnly).Safe i (enabledUser email)
      (fun _ t' => Won i record.code t') (t₁.serve i e (.deleteLoginCode email)) :=
    Assertions.Safe.stable (fun hop _ _ => CodeOp.Free.follows hop) (fun h hr => h.rely hr)
      (fun hop h _ _ => h.serve hop) (enabledUser_free email) hwon
  refine huser.bind (fun user t₂ h₂ => ?_) fun e => e.elim
  split
  · exact secure_issueUserToken libs _ h₂
  · trivial

theorem secure_tryLoginCode (libs : CodeLibs) {email : String} (code : String)
    {record : LoginCode} (hkey : record.code.key = .login email)
    (h : Loaded i ⟨record.code, record.codeHash, record.attempts, record.expiresAt⟩ t)
    (hlt : record.attempts < loginCodeMaxAttempts) :
    (codeDiscipline readOnly).Secure i (tryLoginCode libs email code record) t := by
  have honly : (CodeOp.incrementLoginCodeAttempts email record.code).Only True False False
      False := by
    constructor <;> intro _ _ <;> trivial
  have hcounts : (CodeOp.incrementLoginCodeAttempts email record.code).counts record.code :=
    decide_eq_true ⟨rfl, hkey⟩
  refine secure_ask (fun t₁ hr _ => ?_) fun t₁ hr hi e => ?_
  · exact (h.rely hr).follows hlt hcounts honly
      (fun hx => (of_decide_eq_true hx).trans hkey.symm)
      (fun hx => (of_decide_eq_true hx).1.symm) fun _ => rfl
  · have htried := (h.rely hr).serve (e := e) hi hcounts honly fun _ => rfl
    refine secure_ask (fun t₂ hr₂ _ => (htried.rely hr₂).follows _ _) fun t₂ hr₂ _ e₂ => ?_
    split
    · rename_i hsame
      exact secure_redeemLoginCode libs rfl hkey ((htried.rely hr₂).serve (beq_iff_eq.mp hsame))
    · trivial

theorem secure_verifyAuthCode (libs : CodeLibs) (email code : String) (h : Idle i t) :
    (codeDiscipline readOnly).Secure i (verifyAuthCode libs email code) t := by
  unfold verifyAuthCode
  split
  · trivial
  · rename_i email _
    have hclock : CodeOp.clock.Free := trivial
    have hget : (CodeOp.getLoginCode email).Free := trivial
    refine secure_free Own.rely (fun h hop => h.serve hop) hclock h fun now t₁ h₁ => ?_
    refine secure_ask (fun _ _ _ => hget.follows) fun t₂ hr hi e => ?_
    have hidle := h₁.rely hr
    split
    · rename_i record hrecord
      have hrow := getLoginCode_ok hrecord
      have hloaded := Loaded.of_read (e := e) hi hidle hget (decide_eq_true rfl) hrow
      unfold checkLoginCode
      split
      · exact secure_burnLoginCode email (hidle.serve hget)
      · split
        · exact secure_burnLoginCode email (hidle.serve hget)
        · rename_i hlt
          exact secure_tryLoginCode libs code (hi.home hrow).1 hloaded (Nat.lt_of_not_le hlt)
    · trivial

/-! ### Submit codes -/

theorem requestSubmitCode_free (libs : CodeLibs) (slug email : String)
    (turnstileToken remoteIp : Option String) :
    (requestSubmitCode libs slug email turnstileToken remoteIp).All CodeOp.Free := by
  have hturnstile : (CodeOp.verifyTurnstile turnstileToken remoteIp).Free := trivial
  have hslug : (CodeOp.getInstanceIdBySlug slug).Free := trivial
  have hclock : CodeOp.clock.Free := trivial
  have hcode : (CodeOp.generateCode loginCodeDigits).Free := trivial
  refine .bind (all_ask hturnstile) fun r => ?_
  split
  · refine .bind (all_ask hslug) fun r => ?_
    split
    · rename_i instanceId
      have hinst : (CodeOp.getInstance instanceId).Free := trivial
      refine .bind (all_ask hinst) fun r => ?_
      split
      · rename_i inst
        have hget : (CodeOp.getEphemeralState (submitCodeStateId libs instanceId email)).Free :=
          trivial
        split
        · refine .bind (all_ask hclock) fun now => .bind (all_ask hget) fun existing => ?_
          split
          · trivial
          · refine .bind (all_ask hcode) fun code => .bind (all_ask trivial) fun r => ?_
            split
            · trivial
            · exact .bind (all_ask trivial) fun _ => trivial
        · trivial
      · trivial
    · trivial
  · trivial

/-- What a reliable read of `ephemeral_state` returns is in the table. -/
theorem getEphemeralState_ok {s : CodeStore} {e : CodeEnv} {id : String} {state : EphemeralState}
    (h : (s.serve e readOnly true (.getEphemeralState id)).1 = .ok (some state)) :
    s.db.now.codeAt (.submit id) = state.codeRow := by
  have hlookup : s.db.now.ephemeral.lookup id = some state := Except.ok.inj h
  rw [CodeDb.codeAt, hlookup]
  rfl

theorem deleteEphemeralState_only (id : String) :
    (CodeOp.deleteEphemeralState id).Only False False True False := by
  constructor <;> intro _ _ <;> trivial

theorem secure_burnSubmitCode (stateId : String) (h : Idle i t) :
    (codeDiscipline readOnly).Secure i (burnSubmitCode stateId) t := by
  refine secure_ask (fun t₁ hr _ => ?_) fun _ _ _ _ => trivial
  exact Idle.follows (h.rely hr) (deleteEphemeralState_only stateId)

theorem secure_redeemSubmitCode (libs : CodeLibs) {stateId : String} (email instanceId : String)
    {code : CodeId} {row : CodeRow} (hcode : row.code = code) (hkey : code.key = .submit stateId)
    (h : Matched i row t) :
    (codeDiscipline readOnly).Secure i (redeemSubmitCode libs stateId email instanceId code) t := by
  subst hcode
  have honly := deleteEphemeralState_only stateId
  have hdelete : (CodeOp.deleteEphemeralState stateId).deletes row.code.key := decide_eq_true hkey
  refine secure_ask (fun t₁ hr _ => (h.rely hr).follows honly) fun t₁ hr _ e => ?_
  exact secure_issueSubmitToken libs email instanceId ((h.rely hr).serve hdelete honly)

/-- The request of `verify_submit_code` that writes the row back. -/
abbrev putBack (stateId : String) (state : EphemeralState) (payload : SubmitCodePayload) : CodeOp :=
  .putEphemeralState stateId submitCodeStateKind
    (.submitCode { payload with attempts := payload.attempts + 1 }) state.expiresAt
    (some state.code)

theorem secure_trySubmitCode (libs : CodeLibs) {stateId : String} (email instanceId code : String)
    {state : EphemeralState} {payload : SubmitCodePayload}
    (hkey : state.code.key = .submit stateId)
    (h : Loaded i ⟨state.code, payload.codeHash, payload.attempts, state.expiresAt⟩ t)
    (hlt : payload.attempts < loginCodeMaxAttempts) :
    (codeDiscipline readOnly).Secure i
      (trySubmitCode libs stateId email instanceId code state payload) t := by
  have honly : (putBack stateId state payload).Only True False False False := by
    constructor <;> intro _ hx <;> try trivial
    exact absurd (of_decide_eq_true hx).2 (by decide)
  have hcounts : (putBack stateId state payload).counts state.code :=
    decide_eq_true ⟨rfl, hkey, rfl⟩
  refine secure_ask (fun t₁ hr _ => ?_) fun t₁ hr hi e => ?_
  · exact (h.rely hr).follows hlt hcounts honly
      (fun hx => (of_decide_eq_true hx).1.trans hkey.symm)
      (fun hx => (of_decide_eq_true hx).1.symm) fun _ => rfl
  · have htried := (h.rely hr).serve (e := e) hi hcounts honly fun _ => rfl
    refine secure_ask (fun t₂ hr₂ _ => (htried.rely hr₂).follows _ _) fun t₂ hr₂ _ e₂ => ?_
    split
    · rename_i hsame
      exact secure_redeemSubmitCode libs email instanceId rfl hkey
        ((htried.rely hr₂).serve (beq_iff_eq.mp hsame))
    · trivial

theorem secure_verifyInstanceSubmitCode (libs : CodeLibs) (instanceId email code : String)
    (h : Idle i t) :
    (codeDiscipline readOnly).Secure i (verifyInstanceSubmitCode libs instanceId email code) t := by
  have hclock : CodeOp.clock.Free := trivial
  have hget : (CodeOp.getEphemeralState (submitCodeStateId libs instanceId email)).Free := trivial
  refine secure_free Own.rely (fun h hop => h.serve hop) hclock h fun now t₁ h₁ => ?_
  refine secure_ask (fun _ _ _ => hget.follows) fun t₂ hr hi e => ?_
  have hidle := h₁.rely hr
  split
  · rename_i state hstate
    have hrow := getEphemeralState_ok hstate
    split
    · rename_i hkind
      unfold checkSubmitCode
      split
      · exact secure_burnSubmitCode _ (hidle.serve hget)
      · split
        · rename_i payload hpayload
          rw [EphemeralState.codeRow, if_pos hkind, hpayload] at hrow
          split
          · exact secure_burnSubmitCode _ (hidle.serve hget)
          · rename_i hlt
            have hloaded := Loaded.of_read (e := e) hi hidle hget (decide_eq_true rfl) hrow
            exact secure_trySubmitCode libs email instanceId code (hi.home hrow).1 hloaded
              (Nat.lt_of_not_le hlt)
        · trivial
    · trivial
  · trivial

theorem secure_verifySubmitCode (libs : CodeLibs) (slug email code : String) (h : Idle i t) :
    (codeDiscipline readOnly).Secure i (verifySubmitCode libs slug email code) t := by
  have hslug : (CodeOp.getInstanceIdBySlug slug).Free := trivial
  refine secure_free Own.rely (fun h hop => h.serve hop) hslug h fun r t₁ h₁ => ?_
  split
  · exact secure_verifyInstanceSubmitCode libs _ email code h₁
  · trivial

/-! ### Runs -/

/-- Every call of the mutations is secure from its first request on. -/
theorem code_starts (libs : CodeLibs) : (codeDiscipline readOnly).Starts (IsCodeMutation libs) := by
  rintro p ⟨m, rfl⟩ i t - hfresh
  have hidle : Idle i t := fun ev hev hi => absurd hi (hfresh ev hev)
  cases m with
  | requestAuthCode email token ip =>
      exact (secure_all_free (requestAuthCode_free libs email token ip)).void
  | verifyAuthCode email code => exact (secure_verifyAuthCode libs email code hidle).void
  | requestSubmitCode slug email token ip =>
      exact (secure_all_free (requestSubmitCode_free libs slug email token ip)).void
  | verifySubmitCode slug email code =>
      exact (secure_verifySubmitCode libs slug email code hidle).void

/-- Empty tables satisfy the invariant. -/
theorem codeInvariant_init :
    CodeInvariant (⟨[], ⟨⟨⟨∅, ∅, []⟩, []⟩, []⟩⟩ : Trace (codeService readOnly true)) where
  home {key row} hrow := by cases key <;> cases hrow
  disabled _ := rfl
  counted hev := by cases hev
  guessed hev := by cases hev
  guessers _ := List.nodup_nil
  limited _ _ := Nat.zero_le _
  attempts _ key row hrow := by cases key <;> cases hrow
  once _ i j code := by
    rintro ⟨x, y, hsub, -⟩
    cases hsub
  gone _ i row hrow := by
    rintro ⟨x, y, hsub, -⟩
    cases hsub
  issued hev := by cases hev
  issuers _ := List.nodup_nil

/-- The invariant holds in every reachable pool. -/
theorem CodeReachable.holds {libs : CodeLibs} {c : Pool (codeService readOnly true) Empty Unit}
    (h : CodeReachable libs readOnly true c) : (codeDiscipline readOnly).Holds c :=
  Discipline.Run.holds (code_starts libs) h (.init codeInvariant_init)

end

/-! ### Sample runs

A client asks for a login code and gets `000042`; others, or the same client again, verify codes.
The libraries agree with the real ones on the strings of the runs. -/

/-- Some SHA-256 digests in hexadecimal. -/
def sampleDigests : List (String × String) :=
  [("000000", "91b4d142823f7d20c5f08df69122de43f35f057a988d9619f6d3138485c9a203"),
    ("000042", "9e3acb89b9d56624b229a2a8f0811e3b21b2eeb6fea8d439b37e0fa92d9a38df"),
    ("i1:ann@example.org", "481b402414c4607966de51f31f57c350fbf6af7a3461a24f596fa09707a7367b"),
    ("mts_n1", "9fd275c1f5e0915b62dee2137096e35792bb75434493ccf542eab1612d26f187"),
    ("mtu_n1", "64f6eb6094e009c195c3ac10c4c2215aeca539c2f241000ecf4bfaa0f99d4c72"),
    ("mtu_n2", "cff554ca75676d43834dbf8ea4f98af831d408291d8c228c43cfb49faa5599e6")]

def sampleCodeLibs : CodeLibs where
  toLowercase := id
  debug s := "\"" ++ s ++ "\""
  sha256Hex s := (sampleDigests.lookup s).getD s

abbrev CodeMove : Type := Move (codeService false true) (IsCodeMutation sampleCodeLibs)

abbrev CodePool : Type := Pool (codeService false true) Empty Unit

/-- A client calls a mutation. -/
def codeCall (m : CodeMutation) : CodeMove := .start _ ⟨m, rfl⟩

def loginCall : CodeMove := codeCall (.requestAuthCode "ann@example.org" none none)

def verifyCall (code : String) : CodeMove := codeCall (.verifyAuthCode "ann@example.org" code)

/-- An instance that takes public submissions. -/
def sampleSupport : Instance :=
  { id := "i1", name := "Help", slug := "help", kind := .support, publicSubmissionEnabled := true,
    fromName := "Help", signature := "", deleted := false, businessName := none,
    businessAbn := none, businessAddress := none, businessPhone := none, businessEmail := none,
    paymentDetails := none, gstRegistered := false, currency := none }

/-- The choices of the sample runs: an enabled user, a public instance, no failure. -/
def sampleCodeEnv (nonce : String) (number : ℕ) : CodeEnv where
  now := 1782777600
  random := 42
  nonce := nonce
  number := number
  lag := 0
  fault := .none
  turnstile := .ok true
  mail := .ok ()
  userId := .ok (some "u1")
  user := .ok (some ⟨"u1", true⟩)
  instanceId := .ok (some "i1")
  inst := .ok (some sampleSupport)

/-- The next requests of program `i` are served. -/
def codeServes (i : ℕ) (nonce : String) (numbers : List ℕ) : List CodeMove :=
  numbers.map fun number => .serve i (sampleCodeEnv nonce number)

def codePool (moves : List CodeMove) : CodePool :=
  (Pool.init (S := codeService false true) ⟨⟨⟨∅, ∅, []⟩, []⟩, []⟩).play moves

theorem codePool_reachable (moves : List CodeMove) :
    CodeReachable sampleCodeLibs false true (codePool moves) := Pool.play_run _ moves

theorem codePool_run (moves moves' : List CodeMove) :
    Run (codeService false true) (IsCodeMutation sampleCodeLibs) (codePool moves)
      (codePool (moves ++ moves')) := by
  have happend : codePool (moves ++ moves') = (codePool moves).play moves' :=
    Pool.play_append _ _ _
  rw [happend]
  exact Pool.play_run _ _

/-- The code `000042` is stored and sent. -/
def codeSent : List CodeMove := loginCall :: codeServes 0 "" [1, 2, 3, 4, 5, 6, 7, 8]

/-- The code of `codeSent`. -/
def sentCode : CodeId := ⟨.login "ann@example.org", 7⟩

/-- A wrong guess, then the right one. -/
def codeUsed : List CodeMove :=
  codeSent ++ [verifyCall "000000"] ++ codeServes 1 "" [11, 12, 13, 14] ++ [verifyCall "000042"] ++
    codeServes 2 "n1" [21, 22, 23, 24, 25, 26, 27, 28, 29, 30]

end Microticket

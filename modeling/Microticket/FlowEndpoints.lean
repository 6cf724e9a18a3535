import Microticket.FlowOrigins
import Microticket.OAuthCodes
import Microticket.ReplyAddresses

/-! # The secrets of one flow in another

The ids of three kinds of rows hash a secret behind a prefix, and their lengths tell the kinds apart;
the challenges of passkeys are ids that were drawn once, by one call.  So an endpoint that accepts a
string has read a row of its own flow. -/

namespace Microticket

open Interleaving Tables RustText

/-! ### What is presented -/

/-- The string that a call presents as a secret. -/
def FlowCall.secret (libs : FlowLibs) : FlowCall → Option String
  | .code (.verifyAuthCode _ given) | .code (.verifySubmitCode _ _ given) => some given
  | .oauth (.token _ body) => match bodyParams libs.oauth body "grant_type" with
    | some "authorization_code" => bodyParams libs.oauth body "code"
    | some "refresh_token" => bodyParams libs.oauth body "refresh_token"
    | _ => none
  | .oauth (.verifyAccessToken token _) | .verifyToken token => some token
  | .passkey (.finishPasskeyRegistration _ challengeId ..)
  | .passkey (.finishPasskeyLogin challengeId _) => some challengeId
  | _ => none

/-- The answer says that the call has accepted it. -/
def FlowCall.accepts : FlowCall → FlowReply → Bool
  | .code (.verifyAuthCode ..), .token (some _) | .code (.verifySubmitCode ..), .token (some _)
  | .oauth (.token ..), .oauth (.tokens ..)
  | .oauth (.verifyAccessToken ..), .oauth (.verified ..)
  | .passkey (.finishPasskeyRegistration ..), .passkey (.info _)
  | .passkey (.finishPasskeyLogin ..), .passkey (.token (some _))
  | .verifyToken _, .session (.verified ..) => true
  | _, _ => false

/-- The address of a submit code. -/
def FlowCall.submitter : FlowCall → Option String
  | .code (.requestSubmitCode _ email ..) | .code (.verifySubmitCode _ email _) => some email
  | _ => none

/-- What a call hashes of its arguments. -/
def FlowCall.hashes (libs : FlowLibs) : FlowCall → Option String
  | .passkey _ => none
  | call => call.secret libs

/-- What a call hashes of the answer to a request. -/
def hashedAfter (calls : ℕ → FlowCall) : FlowEvent → List String
  | ⟨_, .code (.generateCode _), code⟩ => [code]
  | ⟨i, .code (.getInstanceIdBySlug _), .ok (some instanceId)⟩ =>
      (calls i).submitter.toList.map fun email => instanceId ++ ":" ++ email
  | ⟨_, .code (.generateNonce 16), nonce⟩ => ["mts_" ++ nonce]
  | ⟨_, .code (.generateNonce 32), nonce⟩ | ⟨_, .passkey (.generateNonce 32), nonce⟩ =>
      ["mtu_" ++ nonce]
  | ⟨_, .oauth (.generateNonce 32), nonce⟩ => [nonce]
  | _ => []

/-- The strings that are hashed in a run. -/
def Hashed (libs : FlowLibs) (calls : ℕ → FlowCall) (evs : List FlowEvent) (s : String) : Prop :=
  (∃ i, (calls i).hashes libs = some s) ∨ ∃ ev ∈ evs, s ∈ hashedAfter calls ev

/-- The secrets that only their own endpoint may accept. -/
inductive FlowSecret where
  | submitToken
  | authorizationCode
  | registration (userId : String)
  | login
  deriving DecidableEq, Repr

/-- Call `j` has issued the secret `s`. -/
def FlowSecret.Issued (calls : ℕ → FlowCall) (evs : List FlowEvent) (j : ℕ) (s : String) :
    FlowSecret → Prop
  | .submitToken => ∃ instanceId email, DrawsSubmitToken calls evs j instanceId email s
  | .authorizationCode => DrawsAuthorizationCode calls evs j s
  | .registration userId => DrawsRegistration calls evs j userId s
  | .login => DrawsLogin calls evs j s

/-- The call is of the endpoint of the secret. -/
def FlowSecret.Endpoint (libs : FlowLibs) : FlowSecret → FlowCall → Prop
  | .submitToken, .verifyToken _ => True
  | .authorizationCode, .oauth (.token _ body) =>
      bodyParams libs.oauth body "grant_type" = some "authorization_code"
  | .registration userId, .passkey (.finishPasskeyRegistration auth ..) =>
      ∃ memberships isSuperuser, auth = some (.user userId memberships isSuperuser)
  | .login, .passkey (.finishPasskeyLogin ..) => True
  | _, _ => False

/-- The kind of the rows that a call deletes. -/
def FlowCall.deletesKind : FlowCall → Option String
  | .code (.verifySubmitCode ..) => some submitCodeStateKind
  | .oauth (.token ..) => some oauthCodeStateKind
  | .passkey (.finishPasskeyRegistration ..) => some "reg"
  | .passkey (.finishPasskeyLogin ..) => some "auth"
  | _ => none

/-- The kinds of the rows that a call puts. -/
def FlowCall.putsKinds : FlowCall → List String
  | .code (.requestSubmitCode ..) => [submitCodeStateKind]
  | .code (.verifySubmitCode ..) => [submitCodeStateKind, submitTokenStateKind]
  | .oauth (.approveOAuthAuthorization ..) => [oauthCodeStateKind]
  | .passkey (.beginPasskeyRegistration _) => ["reg"]
  | .passkey .beginPasskeyLogin => ["auth"]
  | _ => []

/-! ### Ids and kinds -/

/-- The length of the id of a row. -/
def kindLength (kind : String) : ℕ :=
  if kind = submitCodeStateKind then 76
  else if kind = submitTokenStateKind then 77
  else if kind = oauthCodeStateKind then 75
  else 32

section ids
variable {libs : FlowLibs} {calls : ℕ → FlowCall} {evs : List FlowEvent} {drawn : List String}
variable {row row' : EphemeralRow} {i j k : ℕ} {s userId userId' : String}

theorem submitCodeStateId_length (hlaws : FlowLaws libs) (instanceId email : String) :
    (submitCodeStateId libs.toCodeLibs instanceId email).length = 76 := by
  show ("submit_code" ++ "_" ++ libs.sha256Hex (instanceId ++ ":" ++ email)).length = 76
  rw [String.length_append, String.length_append, hlaws.digits]
  rfl

theorem submitTokenStateId_length (hlaws : FlowLaws libs) (s : String) :
    (submitTokenStateId (libs.sha256Hex s)).length = 77 := by
  show ("submit_token" ++ "_" ++ libs.sha256Hex s).length = 77
  rw [String.length_append, String.length_append, hlaws.digits]
  rfl

theorem oauthCodeStateId_length (hlaws : FlowLaws libs) (s : String) :
    (oauthCodeStateId (libs.sha256Hex s)).length = 75 := by
  show ("oauth_code" ++ "_" ++ libs.sha256Hex s).length = 75
  rw [String.length_append, String.length_append, hlaws.digits]
  rfl

/-- The kind of a row tells the length of its id. -/
theorem Origin.length (hlaws : FlowLaws libs) (hdraws : FlowDraws evs drawn)
    (horigin : Origin libs calls evs row) : row.id.length = kindLength row.kind := by
  have hrandom : ∀ {j}, (⟨j, .passkey .randomId, row.id⟩ : FlowEvent) ∈ evs → row.id.length = 32 :=
    fun hdrew => (hdraws.form _ hdrew _ rfl).2
  cases horigin with
  | submitCode hstores hid hkind =>
      rw [hid, hkind, submitCodeStateId_length hlaws]
      rfl
  | submitToken _ hid hkind =>
      rw [hid, hkind, submitTokenStateId_length hlaws]
      rfl
  | authorizationCode _ hid hkind =>
      rw [hid, hkind, oauthCodeStateId_length hlaws]
      rfl
  | registration hdrew hkind =>
      rw [hrandom hdrew.drew, hkind]
      rfl
  | login hdrew hkind =>
      rw [hrandom hdrew.drew, hkind]
      rfl

/-- A challenge has one kind, and one user. -/
theorem DrawsRegistration.unique (hdraws : FlowDraws evs drawn)
    (h : DrawsRegistration calls evs j userId s) (h' : DrawsRegistration calls evs k userId' s) :
    userId = userId' := by
  obtain ⟨m, b, hcall⟩ := h.call
  obtain ⟨m', b', hcall'⟩ := h'.call
  have hcaller : j = k := (hdraws.once _ h.drew _ h'.drew s rfl rfl).1
  rw [hcaller, hcall'] at hcall
  cases hcall
  rfl

theorem DrawsRegistration.not_login (hdraws : FlowDraws evs drawn)
    (h : DrawsRegistration calls evs j userId s) : ¬ DrawsLogin calls evs k s := by
  intro h'
  obtain ⟨m, b, hcall⟩ := h.call
  have hcaller : j = k := (hdraws.once _ h.drew _ h'.drew s rfl rfl).1
  rw [hcaller, h'.call] at hcall
  cases hcall

/-- Rows under one id are of one kind. -/
theorem Origin.kind_unique (hlaws : FlowLaws libs) (hdraws : FlowDraws evs drawn)
    (horigin : Origin libs calls evs row) (horigin' : Origin libs calls evs row')
    (hid : row.id = row'.id) : row.kind = row'.kind := by
  have hlength : kindLength row.kind = kindLength row'.kind := by
    rw [← horigin.length hlaws hdraws, ← horigin'.length hlaws hdraws, hid]
  cases horigin with
  | submitCode _ _ hkind =>
      rw [hkind] at hlength ⊢
      cases horigin' with
      | submitCode _ _ hkind' => exact hkind'.symm
      | submitToken _ _ hkind' | authorizationCode _ _ hkind' | registration _ hkind'
      | login _ hkind' =>
          rw [hkind'] at hlength
          exact absurd hlength (by decide)
  | submitToken _ _ hkind =>
      rw [hkind] at hlength ⊢
      cases horigin' with
      | submitToken _ _ hkind' => exact hkind'.symm
      | submitCode _ _ hkind' | authorizationCode _ _ hkind' | registration _ hkind'
      | login _ hkind' =>
          rw [hkind'] at hlength
          exact absurd hlength (by decide)
  | authorizationCode _ _ hkind =>
      rw [hkind] at hlength ⊢
      cases horigin' with
      | authorizationCode _ _ hkind' => exact hkind'.symm
      | submitCode _ _ hkind' | submitToken _ _ hkind' | registration _ hkind'
      | login _ hkind' =>
          rw [hkind'] at hlength
          exact absurd hlength (by decide)
  | registration hdrew hkind =>
      rw [hkind] at hlength ⊢
      cases horigin' with
      | registration _ hkind' => exact hkind'.symm
      | login hdrew' => exact absurd (hid ▸ hdrew') (hdrew.not_login hdraws)
      | submitCode _ _ hkind' | submitToken _ _ hkind' | authorizationCode _ _ hkind' =>
          rw [hkind'] at hlength
          exact absurd hlength (by decide)
  | login hdrew hkind =>
      rw [hkind] at hlength ⊢
      cases horigin' with
      | login _ hkind' => exact hkind'.symm
      | registration hdrew' => exact absurd (hid ▸ hdrew) (hdrew'.not_login hdraws)
      | submitCode _ _ hkind' | submitToken _ _ hkind' | authorizationCode _ _ hkind' =>
          rw [hkind'] at hlength
          exact absurd hlength (by decide)

end ids

/-! ### What a run keeps -/

section run
variable {libs : FlowLibs} {readOnly : Bool} {calls : ℕ → FlowCall}
variable {c c₁ c₂ : Pool (flowService libs readOnly) OAuthFailure FlowReply} {ev : FlowEvent}

/-- The rows, the answers and the draws of a run come from its calls. -/
theorem FlowReachable.inv (hlaws : FlowLaws libs) (h₁ : FlowReachable libs readOnly c₁)
    (hlater : Run (flowService libs readOnly) (IsFlowCall libs) c₁ c)
    (hplays : ∀ i, i < c.threads.length → c.Plays i ((calls i).program libs)) :
    FlowInv libs calls c₁.trace.state c₁.trace.events := by
  have hsends : ∀ i, Sends i ((calls i).Permits i libs) (fun _ _ => True)
      ((calls i).program libs) [] := fun i => ((calls i).sends libs).post fun _ _ _ => trivial
  refine GuardedRun.plays_later (K := fun t => FlowInv libs calls t.state t.events)
    (G := fun i => (calls i).Permits i libs) hsends ?_ (Run.guarded h₁) hlater (.init _) hplays .init
  intro c₀ i e op _ _ hinv hallowed hperm _
  exact hinv.serve hlaws (fun ev hev => (mem_ownEvents.mp hev).1) hallowed.1 hallowed.2 hperm

/-- Every request of a run is one that its call may send then. -/
theorem FlowReachable.permits (hc : FlowReachable libs readOnly c)
    (hplays : ∀ i, i < c.threads.length → c.Plays i ((calls i).program libs))
    (hev : ev ∈ c.trace.events) : ∃ h rest, ownEvents ev.caller c.trace.events = h ++ ev :: rest ∧
      (calls ev.caller).Permits ev.caller libs h ev.op := by
  obtain ⟨c₁, c₂, -, hserves, hafter⟩ := Run.split hc hev
  obtain ⟨rest, hrest⟩ := hserves.own_split hafter
  have hcaller := (Run.started hc (.init _)).callers ev hev
  exact ⟨_, rest, hrest, hserves.permitted hafter (hplays _ hcaller) ((calls _).sends libs)⟩

theorem FlowReachable.permits_sub (hc : FlowReachable libs readOnly c)
    (hplays : ∀ i, i < c.threads.length → c.Plays i ((calls i).program libs))
    (hev : ev ∈ c.trace.events) : ∃ h, h ⊆ c.trace.events ∧
      (calls ev.caller).Permits ev.caller libs h ev.op := by
  obtain ⟨h, rest, hown, hperm⟩ := hc.permits hplays hev
  refine ⟨h, fun x hx => (mem_ownEvents (i := ev.caller)).mp ?_ |>.1, hperm⟩
  rw [hown]
  exact List.mem_append_left _ hx

end run

/-! ### Hashes -/

section hashes
variable {libs : FlowLibs} {calls : ℕ → FlowCall} {evs : List FlowEvent} {s : FlowStore} {i j k : ℕ}
variable {email email' instanceId instanceId' code given : String}

theorem Hashed.drawn {ev : FlowEvent} (hev : ev ∈ evs) {x : String} (hx : x ∈ hashedAfter calls ev) :
    Hashed libs calls evs x :=
  .inr ⟨ev, hev, hx⟩

/-- The instance and the address of a submit code are hashed together. -/
theorem Hashed.submitter {slug : String} (hemail : (calls j).submitter = some email)
    (hinst : ⟨j, .code (.getInstanceIdBySlug slug), .ok (some instanceId)⟩ ∈ evs) :
    Hashed libs calls evs (instanceId ++ ":" ++ email) := by
  refine .drawn hinst ?_
  show _ ∈ (calls j).submitter.toList.map fun email => instanceId ++ ":" ++ email
  rw [hemail]
  exact List.mem_singleton_self _

theorem submitCodeStateId_inj (hinj : Set.InjOn libs.sha256Hex {x | Hashed libs calls evs x})
    (hinv : FlowInv libs calls s evs) {slug slug' : String}
    (hemail : (calls j).submitter = some email) (hemail' : (calls k).submitter = some email')
    (hinst : ⟨j, .code (.getInstanceIdBySlug slug), .ok (some instanceId)⟩ ∈ evs)
    (hinst' : ⟨k, .code (.getInstanceIdBySlug slug'), .ok (some instanceId')⟩ ∈ evs)
    (hid : submitCodeStateId libs.toCodeLibs instanceId email =
      submitCodeStateId libs.toCodeLibs instanceId' email') :
    instanceId = instanceId' ∧ email = email' := by
  have hsame : instanceId ++ ":" ++ email = instanceId' ++ ":" ++ email' :=
    hinj (.submitter hemail hinst) (.submitter hemail' hinst') ((String.append_right_inj _).mp hid)
  -- neither id has a colon, so the colon splits both texts
  have hsplit : splitOnce ':' (instanceId ++ ":" ++ email) = some (instanceId, email) :=
    splitOnce_eq (by simp) (hinv.reads _ hinst)
  have hsplit' : splitOnce ':' (instanceId' ++ ":" ++ email') = some (instanceId', email') :=
    splitOnce_eq (by simp) (hinv.reads _ hinst')
  rw [hsame, hsplit'] at hsplit
  cases hsplit
  exact ⟨rfl, rfl⟩

/-- A login code that matches was stored by the call that drew it. -/
theorem FlowInv.loginCode (hinv : FlowInv libs calls s evs)
    (hinj : Set.InjOn libs.sha256Hex {x | Hashed libs calls evs x})
    (hgiven : Hashed libs calls evs given) {h : List CodeEvent} (hsub : h.map flowOfCode ⊆ evs)
    (hmatch : MatchesLoginCode i libs.toCodeLibs email given h) :
    ∃ j, StoresLoginCode libs calls evs j email given := by
  obtain ⟨record, hread, hsame⟩ := hmatch
  obtain ⟨j, code, hstores, hhash⟩ := hinv.reads _ (mem_flowOfCode hsub hread)
  have hequal : record.codeHash = libs.sha256Hex given :=
    hinv.reads _ (mem_flowOfCode hsub hsame)
  have hcode : code = given :=
    hinj (.drawn hstores.drew (List.mem_singleton_self _)) hgiven (hhash.symm.trans hequal)
  exact ⟨j, hcode ▸ hstores⟩

/-- A submit code that matches was stored by a call that drew it for this address and instance. -/
theorem FlowInv.submitCode (hlaws : FlowLaws libs) (hinv : FlowInv libs calls s evs)
    (hinj : Set.InjOn libs.sha256Hex {x | Hashed libs calls evs x})
    (hgiven : Hashed libs calls evs given) (hemail : (calls i).submitter = some email)
    {h : List CodeEvent} (hsub : h.map flowOfCode ⊆ evs) {slug : String}
    (hinst : ⟨i, .getInstanceIdBySlug slug, .ok (some instanceId)⟩ ∈ h)
    (hmatch : MatchesSubmitCode i libs.toCodeLibs instanceId email given h) :
    ∃ j, StoresSubmitCode libs calls evs j instanceId email given := by
  obtain ⟨state, payload, hread, hkind, hpayload, hsame⟩ := hmatch
  obtain ⟨row, horigin, hid, rfl⟩ := hinv.reads _ (mem_flowOfCode hsub hread)
  have hequal : payload.codeHash = libs.sha256Hex given :=
    hinv.reads _ (mem_flowOfCode hsub hsame)
  obtain ⟨j, instanceId', email', code, hstores, hid', hhash⟩ :=
    horigin.submitCode_payload hlaws hkind hpayload
  have hcode : code = given :=
    hinj (.drawn hstores.drew (List.mem_singleton_self _)) hgiven (hhash.symm.trans hequal)
  obtain ⟨slug', token, ip, hcall, hinst'⟩ := hstores.call
  have hemail' : (calls j).submitter = some email' := by
    rw [hcall]
    rfl
  obtain ⟨rfl, rfl⟩ := submitCodeStateId_inj hinj hinv hemail hemail' (mem_flowOfCode hsub hinst)
    hinst' (hid.symm.trans hid')
  exact ⟨j, hcode ▸ hstores⟩

/-- A code has six digits. -/
theorem FlowInv.code_length (hinv : FlowInv libs calls s evs)
    (hdrew : ⟨j, .code (.generateCode loginCodeDigits), code⟩ ∈ evs) : code.length = 6 :=
  hinv.reads _ hdrew (by decide)

end hashes

/-! ### Forms -/

section forms
variable {libs : FlowLibs} {calls : ℕ → FlowCall} {evs : List FlowEvent} {drawn : List String}
variable {j : ℕ} {s : String} {f : FlowSecret}

/-- The length of a secret. -/
def FlowSecret.length : FlowSecret → ℕ
  | .submitToken => 26
  | .authorizationCode => 43
  | .registration _ | .login => 32

theorem FlowSecret.Issued.length (hdraws : FlowDraws evs drawn) (h : f.Issued calls evs j s) :
    s.length = f.length := by
  cases f with
  | submitToken =>
      obtain ⟨instanceId, email, hdraw⟩ := h
      obtain ⟨nonce, hnonce, rfl⟩ := hdraw.drew
      rw [String.length_append, (hdraws.form _ hnonce _ rfl).2]
      rfl
  | authorizationCode => exact (hdraws.form _ h.drew _ rfl).2
  | registration userId => exact (hdraws.form _ h.drew _ rfl).2
  | login => exact (hdraws.form _ h.drew _ rfl).2

/-- No secret has a dot, so none is a token of a grant or of the API. -/
theorem FlowSecret.Issued.undotted (hdraws : FlowDraws evs drawn) (h : f.Issued calls evs j s) :
    '.' ∉ s.toList := by
  cases f with
  | submitToken =>
      obtain ⟨instanceId, email, hdraw⟩ := h
      obtain ⟨nonce, hnonce, rfl⟩ := hdraw.drew
      rw [String.toList_append, List.mem_append]
      exact not_or.mpr ⟨by decide, (hdraws.form _ hnonce _ rfl).1⟩
  | authorizationCode => exact (hdraws.form _ h.drew _ rfl).1
  | registration userId => exact (hdraws.form _ h.drew _ rfl).1
  | login => exact (hdraws.form _ h.drew _ rfl).1

/-- What begins with a prefix and goes on as a grant id, a dot and a secret has a dot. -/
theorem dotted_of_split {start s : String} {f : String × String → Option (String × String)}
    (h : ((dropStart start s).bind fun rest => (splitOnce '.' rest).bind f).isSome) :
    '.' ∈ s.toList := by
  obtain ⟨parts, h⟩ := Option.isSome_iff_exists.mp h
  obtain ⟨rest, hrest, h⟩ := Option.bind_eq_some_iff.mp h
  obtain ⟨⟨a, b⟩, hsplit, -⟩ := Option.bind_eq_some_iff.mp h
  rw [dropStart_some hrest, (splitOnce_some hsplit).1]
  simp

theorem parseToken_dotted {start s : String} (h : (parseToken start s).isSome) : '.' ∈ s.toList :=
  dotted_of_split h

theorem parseApiToken_dotted {s : String} (h : (parseApiToken s).isSome) : '.' ∈ s.toList :=
  dotted_of_split h

end forms

/-! ### Endpoints -/

section endpoints
variable {libs : FlowLibs} {calls : ℕ → FlowCall} {evs : List FlowEvent} {st : FlowStore}
variable {drawn : List String} {i j : ℕ} {s : String} {f : FlowSecret} {reply : FlowReply}

/-- A row that was read under the id of an authorization code is of that code. -/
theorem Origin.authorizationCode_of_id (hlaws : FlowLaws libs)
    (hinj : Set.InjOn libs.sha256Hex {x | Hashed libs calls evs x}) (hdraws : FlowDraws evs drawn)
    {row : EphemeralRow} (horigin : Origin libs calls evs row) (hs : Hashed libs calls evs s)
    (hid : row.id = oauthCodeStateId (libs.sha256Hex s)) :
    ∃ j, DrawsAuthorizationCode calls evs j s := by
  have hlength : kindLength row.kind = 75 := by
    rw [← horigin.length hlaws hdraws, hid, oauthCodeStateId_length hlaws]
  cases horigin with
  | authorizationCode hdraw hid' hkind =>
      rename_i j code
      have hcode : code = s := hinj (.drawn hdraw.drew (List.mem_singleton_self _)) hs
        (oauthCodeStateId_inj (hid'.symm.trans hid))
      exact ⟨j, hcode ▸ hdraw⟩
  | submitCode _ _ hkind | submitToken _ _ hkind | registration _ hkind | login _ hkind =>
      rw [hkind] at hlength
      exact absurd hlength (by decide)

/-- A row that was read under the id of a submit token is of that token. -/
theorem Origin.submitToken_of_id (hlaws : FlowLaws libs)
    (hinj : Set.InjOn libs.sha256Hex {x | Hashed libs calls evs x}) (hdraws : FlowDraws evs drawn)
    {row : EphemeralRow} (horigin : Origin libs calls evs row) (hs : Hashed libs calls evs s)
    (hid : row.id = submitTokenStateId (libs.sha256Hex s)) :
    ∃ j instanceId email, DrawsSubmitToken calls evs j instanceId email s ∧
      row.payload = libs.serializeSubmitToken email instanceId := by
  have hlength : kindLength row.kind = 77 := by
    rw [← horigin.length hlaws hdraws, hid, submitTokenStateId_length hlaws]
  cases horigin with
  | submitToken hdraw hid' hkind hpayload =>
      rename_i j instanceId email secret
      obtain ⟨nonce, hnonce, rfl⟩ := hdraw.drew
      have hsecret : "mts_" ++ nonce = s := hinj (.drawn hnonce (List.mem_singleton_self _)) hs
        ((String.append_right_inj _).mp (hid'.symm.trans hid))
      exact ⟨j, instanceId, email, hsecret ▸ hdraw, hpayload⟩
  | submitCode _ _ hkind | authorizationCode _ _ hkind | registration _ hkind | login _ hkind =>
      rw [hkind] at hlength
      exact absurd hlength (by decide)

/-- A challenge that is read has the kind of its row. -/
theorem stateRow_kind {row : EphemeralRow} {state : WebauthnState}
    (h : (row.stateRow libs).state = .ok state) : state.kind = row.kind := by
  unfold StateRow.state at h
  split at h
  · cases h
    rfl
  · cases h
  · cases h

/-- A registration that is read has the user of its row. -/
theorem stateRow_user (hlaws : FlowLaws libs) {row : EphemeralRow} {state : WebauthnState}
    {userId : String} {json : PasskeyRegistration} (h : (row.stateRow libs).state = .ok state)
    (hpayload : row.payload = libs.serializeWebauthnState (some userId) (.registration json)) :
    state.userId = some userId := by
  unfold StateRow.state EphemeralRow.stateRow at h
  dsimp only at h
  rw [hpayload, hlaws.registration] at h
  cases h
  rfl

/-- The challenge that a passkey mutation has read is the row under its id. -/
theorem FlowInv.challenge (hinv : FlowInv libs calls st evs) {h : List PasskeyEvent}
    (hsub : h.map flowOfPasskey ⊆ evs) {state : WebauthnState}
    (hread : ⟨i, .getWebauthnState s, .ok (some state)⟩ ∈ h) :
    ∃ row, Origin libs calls evs row ∧ row.id = s ∧ (row.stateRow libs).state = .ok state :=
  hinv.reads _ (mem_flowOfPasskey hsub hread)

/-- A registration that is accepted was begun by the same user. -/
theorem FlowInv.registration (hlaws : FlowLaws libs) (hinv : FlowInv libs calls st evs)
    {h : List PasskeyEvent} (hsub : h.map flowOfPasskey ⊆ evs) {userId : String}
    (hread : ReadsChallenge i s "reg" (some userId) h) :
    ∃ j, DrawsRegistration calls evs j userId s := by
  obtain ⟨state, hread, hkind, huser⟩ := hread
  obtain ⟨row, horigin, rfl, hstate⟩ := hinv.challenge hsub hread
  rw [stateRow_kind hstate] at hkind
  cases horigin with
  | registration hdraw _ hpayload =>
      have hsame := (stateRow_user hlaws hstate hpayload).symm.trans (huser rfl)
      cases hsame
      exact ⟨_, hdraw⟩
  | submitCode _ _ hkind' | submitToken _ _ hkind' | authorizationCode _ _ hkind'
  | login _ hkind' => exact absurd (hkind.symm.trans hkind') (by decide)

theorem FlowInv.login (hinv : FlowInv libs calls st evs) {h : List PasskeyEvent}
    (hsub : h.map flowOfPasskey ⊆ evs) (hread : ReadsChallenge i s "auth" none h) :
    ∃ j, DrawsLogin calls evs j s := by
  obtain ⟨state, hread, hkind, -⟩ := hread
  obtain ⟨row, horigin, rfl, hstate⟩ := hinv.challenge hsub hread
  rw [stateRow_kind hstate] at hkind
  cases horigin with
  | login hdraw => exact ⟨_, hdraw⟩
  | submitCode _ _ hkind' | submitToken _ _ hkind' | authorizationCode _ _ hkind'
  | registration _ hkind' => exact absurd (hkind.symm.trans hkind') (by decide)

/-- A user token that is accepted was drawn. -/
theorem FlowInv.userToken (hinv : FlowInv libs calls st evs)
    (hinj : Set.InjOn libs.sha256Hex {x | Hashed libs calls evs x}) (hs : Hashed libs calls evs s)
    {h : List SessionEvent} (hsub : h.map flowOfSession ⊆ evs) {row : Hydration.UserToken}
    (hread : ⟨i, .getUserTokenByHash (libs.sha256Hex s), .ok (some row)⟩ ∈ h) :
    ∃ nonce, s = "mtu_" ++ nonce ∧ s.length = 47 := by
  obtain ⟨j, nonce, hdrew, hhash⟩ := hinv.reads _ (mem_flowOfSession hsub hread)
  have hmem : Hashed libs calls evs ("mtu_" ++ nonce) := by
    rcases hdrew with hdrew | hdrew <;> exact .drawn hdrew (List.mem_singleton_self _)
  have hlength : nonce.length = 43 := by
    rcases hdrew with hdrew | hdrew <;> exact (hinv.draws.form _ hdrew _ rfl).2
  refine ⟨nonce, hinj hs hmem hhash, ?_⟩
  rw [hinj hs hmem hhash, String.length_append, hlength]
  rfl

/-- An endpoint of OAuth that accepts a secret is the exchange of codes. -/
theorem FlowInv.oauth_endpoint (hlaws : FlowLaws libs) (hinv : FlowInv libs calls st evs)
    (hinj : Set.InjOn libs.sha256Hex {x | Hashed libs calls evs x}) {call : OAuthCall}
    {reply : OAuthReply} {h : List OAuthEvent} (hsub : h.map flowOfOAuth ⊆ evs)
    (hcall : calls i = .oauth call) (hsecret : (FlowCall.oauth call).secret libs = some s)
    (haccepts : (FlowCall.oauth call).accepts (.oauth reply)) (hends : call.Ends i libs.oauth (.ok reply) h)
    (hissued : f.Issued calls evs j s) : f.Endpoint libs (.oauth call) := by
  have hdotted : '.' ∉ s.toList := hissued.undotted hinv.draws
  have hs : Hashed libs calls evs s := .inl ⟨i, by rw [hcall]; exact hsecret⟩
  cases call with
  | token host body =>
      cases reply with
      | tokens access refresh scope =>
          rcases hends with ⟨hgrant, code, hcode, row, hread⟩ | ⟨hgrant, secret, hgiven, hparse⟩
          · unfold FlowCall.secret at hsecret
            dsimp only at hsecret
            rw [hgrant] at hsecret
            obtain rfl := Option.some.inj (hcode.symm.trans hsecret)
            obtain ⟨horigin, hid⟩ := hinv.reads _ (mem_flowOfOAuth hsub hread)
            rw [hlaws.oauthHash] at hid
            obtain ⟨k, hdraw⟩ := horigin.authorizationCode_of_id hlaws hinj hinv.draws hs hid
            have hlength : f.length = 43 :=
              (hissued.length hinv.draws).symm.trans (hinv.draws.form _ hdraw.drew _ rfl).2
            cases f with
            | authorizationCode => exact hgrant
            | submitToken | registration | login => cases hlength
          · unfold FlowCall.secret at hsecret
            dsimp only at hsecret
            rw [hgrant] at hsecret
            obtain rfl := Option.some.inj (hgiven.symm.trans hsecret)
            exact absurd (parseToken_dotted hparse) hdotted
      | _ => cases haccepts
  | verifyAccessToken secret expectedResource =>
      cases hsecret
      cases reply with
      | verified => exact absurd (parseToken_dotted hends) hdotted
      | _ => cases haccepts
  | _ => cases hsecret

/-- A passkey mutation that accepts a challenge is the one of its kind. -/
theorem FlowInv.passkey_endpoint (hlaws : FlowLaws libs) (hinv : FlowInv libs calls st evs)
    {m : PasskeyMutation} {reply : PasskeyReply} {h : List PasskeyEvent}
    (hsub : h.map flowOfPasskey ⊆ evs) (hsecret : (FlowCall.passkey m).secret libs = some s)
    (haccepts : (FlowCall.passkey m).accepts (.passkey reply)) (hends : m.Ends i (.ok reply) h)
    (hissued : f.Issued calls evs j s) : f.Endpoint libs (.passkey m) := by
  have hlength := hissued.length hinv.draws
  cases m with
  | finishPasskeyRegistration auth id json name =>
      cases hsecret
      cases reply with
      | info info =>
          obtain ⟨userId, memberships, isSuperuser, hauth, hread⟩ := hends
          obtain ⟨k, hdraw⟩ := hinv.registration hlaws hsub hread
          rw [(hinv.draws.form _ hdraw.drew _ rfl).2] at hlength
          cases f with
          | registration userId' =>
              obtain rfl := hdraw.unique hinv.draws hissued
              exact ⟨memberships, isSuperuser, hauth⟩
          | login => exact absurd hissued (hdraw.not_login hinv.draws)
          | submitToken | authorizationCode => cases hlength
      | _ => cases haccepts
  | finishPasskeyLogin id json =>
      cases hsecret
      cases reply with
      | token secret =>
          cases secret with
          | none => cases haccepts
          | some secret =>
              obtain ⟨k, hdraw⟩ := hinv.login hsub hends
              rw [(hinv.draws.form _ hdraw.drew _ rfl).2] at hlength
              cases f with
              | login => trivial
              | registration userId => exact absurd hdraw (hissued.not_login hinv.draws)
              | submitToken | authorizationCode => cases hlength
      | _ => cases haccepts
  | _ => cases hsecret

/-- The verification of a token accepts submit tokens only. -/
theorem FlowInv.token_endpoint (hlaws : FlowLaws libs) (hinv : FlowInv libs calls st evs)
    (hinj : Set.InjOn libs.sha256Hex {x | Hashed libs calls evs x}) {info : AuthInfo}
    {h : List SessionEvent} (hsub : h.map flowOfSession ⊆ evs) (hs : Hashed libs calls evs s)
    (hverifies : Verifies i libs.toSessionLibs s info h) (hissued : f.Issued calls evs j s) :
    f.Endpoint libs (.verifyToken s) := by
  have hlength := hissued.length hinv.draws
  cases hverifies with
  | userToken hread =>
      obtain ⟨nonce, -, hlong⟩ := hinv.userToken hinj hs hsub hread
      rw [hlong] at hlength
      cases f <;> cases hlength
  | apiToken hparse => exact absurd (parseApiToken_dotted hparse) (hissued.undotted hinv.draws)
  | submitToken _ hread =>
      obtain ⟨horigin, hid⟩ := hinv.reads _ (mem_flowOfSession hsub hread)
      obtain ⟨k, instanceId, email, hdraw, -⟩ :=
        horigin.submitToken_of_id hlaws hinj hinv.draws hs hid
      have hshort : FlowSecret.Issued calls evs k s .submitToken := ⟨instanceId, email, hdraw⟩
      rw [hshort.length hinv.draws] at hlength
      cases f with
      | submitToken => trivial
      | authorizationCode | registration | login => cases hlength

/-- A code mutation accepts none of the other secrets. -/
theorem FlowInv.code_endpoint (hlaws : FlowLaws libs) (hinv : FlowInv libs calls st evs)
    (hinj : Set.InjOn libs.sha256Hex {x | Hashed libs calls evs x}) {m : CodeMutation}
    {h : List CodeEvent} (hsub : h.map flowOfCode ⊆ evs) (hcall : calls i = .code m)
    (hsecret : (FlowCall.code m).secret libs = some s) (haccepts : (FlowCall.code m).accepts reply)
    (hends : m.Ends i libs.toCodeLibs (.ok reply) h) : ¬ f.Issued calls evs j s := by
  intro hissued
  have hlength := hissued.length hinv.draws
  have hs : Hashed libs calls evs s := .inl ⟨i, by rw [hcall]; exact hsecret⟩
  have hsix : s.length = 6 := by
    cases m with
    | verifyAuthCode raw given =>
        cases hsecret
        cases reply with
        | token secret =>
            cases secret with
            | none => cases haccepts
            | some secret =>
                obtain ⟨email, -, hmatch⟩ := hends
                obtain ⟨k, hstores⟩ := hinv.loginCode hinj hs hsub hmatch
                exact hinv.code_length hstores.drew
        | _ => cases haccepts
    | verifySubmitCode slug email given =>
        cases hsecret
        cases reply with
        | token secret =>
            cases secret with
            | none => cases haccepts
            | some secret =>
                obtain ⟨instanceId, nonce, hinst, hmatch, -⟩ := hends
                obtain ⟨k, hstores⟩ := hinv.submitCode hlaws hinj hs (by rw [hcall]; rfl) hsub hinst
                  hmatch
                exact hinv.code_length hstores.drew
        | _ => cases haccepts
    | _ => cases hsecret
  rw [hsix] at hlength
  cases f <;> cases hlength

end endpoints

end Microticket

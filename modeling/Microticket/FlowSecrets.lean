import Microticket.CodeSafety
import Microticket.FlowEndpoints
import Microticket.Revocation

/-! # The flows kept apart

No call deletes or overwrites a row of another flow, each secret is accepted by its own endpoint only,
and a code is accepted only from the address that it was stored for (`flow_secrets`).  A code counts
as soon as it is stored: it may be accepted although the mail with it was never sent
(`unsent_code_accepted`). -/

namespace Microticket

open Interleaving Tables RustText

/-! ### Rows -/

section rows
variable {libs : FlowLibs} {calls : ℕ → FlowCall} {evs : List FlowEvent} {st : FlowStore}
variable {i : ℕ} {h : List FlowEvent} {op : FlowOp} {row : EphemeralRow} {key : String}

/-- A row is put by a call of its flow. -/
theorem FlowCall.Permits.putsKind (hperm : (calls i).Permits i libs h op)
    (hputs : op.puts libs = some row) : row.kind ∈ (calls i).putsKinds := by
  generalize calls i = call at hperm ⊢
  cases hperm with
  | session => cases hputs
  | code hop =>
      cases hop with
      | quiet hquiet =>
          rw [(CodeOp.inert libs hquiet).puts] at hputs
          cases hputs
      | storesSubmitCode | countsAttempt | storesSubmitToken =>
          cases hputs
          simp [FlowCall.putsKinds]
      | _ => cases hputs
  | oauth hop =>
      cases hop with
      | quiet hquiet =>
          rw [(OAuthOp.inert libs hquiet).puts] at hputs
          cases hputs
      | storesCode =>
          cases hputs
          simp [FlowCall.putsKinds]
      | _ => cases hputs
  | passkey hop =>
      cases hop with
      | quiet hquiet =>
          rw [(PasskeyOp.inert libs hquiet).puts] at hputs
          cases hputs
      | storesRegistration | storesLogin =>
          cases hputs
          simp [FlowCall.putsKinds]
      | _ => cases hputs

/-- The length tells the kinds with hashed ids. -/
theorem kindLength_inj {kind kind' : String} (hlength : kindLength kind = kindLength kind')
    (hkind : kindLength kind' ≠ 32) : kind = kind' := by
  unfold kindLength at hlength hkind
  split_ifs at hlength hkind <;> first | omega | (subst_vars; rfl)

/-- A row is deleted by a call of its flow. -/
theorem FlowCall.Permits.deletesKind (hlaws : FlowLaws libs) (hinv : FlowInv libs calls st evs)
    (hperm : (calls i).Permits i libs h op) (hsub : h ⊆ evs) (hdeletes : op.deletes = some row.id)
    (horigin : Origin libs calls evs row) : (calls i).deletesKind = some row.kind := by
  have hlength := horigin.length hlaws hinv.draws
  generalize calls i = call at hperm ⊢
  cases hperm with
  | session => cases hdeletes
  | code hop =>
      cases hop with
      | quiet hquiet =>
          rw [(CodeOp.inert libs hquiet).deletes] at hdeletes
          cases hdeletes
      | deletesSubmitCode =>
          have hid := Option.some.inj hdeletes
          rw [← hid, submitCodeStateId_length hlaws] at hlength
          exact congrArg some (kindLength_inj hlength.symm (by decide)).symm
      | _ => cases hdeletes
  | oauth hop =>
      cases hop with
      | quiet hquiet =>
          rw [(OAuthOp.inert libs hquiet).deletes] at hdeletes
          cases hdeletes
      | deletesCode =>
          have hid := Option.some.inj hdeletes
          rw [← hid, hlaws.oauthHash, oauthCodeStateId_length hlaws] at hlength
          exact congrArg some (kindLength_inj hlength.symm (by decide)).symm
      | _ => cases hdeletes
  | passkey hop =>
      -- the challenge that was read is an older row under the same id
      have hread : ∀ {h₀ : List PasskeyEvent} {id : String} {state : WebauthnState},
          h₀.map flowOfPasskey ⊆ evs → ⟨i, .getWebauthnState id, .ok (some state)⟩ ∈ h₀ →
          id = row.id → state.kind = row.kind := by
        intro h₀ id state hsub hread hid
        obtain ⟨row', horigin', hid', hstate⟩ := hinv.challenge hsub hread
        rw [stateRow_kind hstate]
        exact horigin'.kind_unique hlaws hinv.draws horigin (hid'.trans hid)
      cases hop with
      | quiet hquiet =>
          rw [(PasskeyOp.inert libs hquiet).deletes] at hdeletes
          cases hdeletes
      | deletesRegistration hstate hkind | deletesLogin hstate hkind =>
          rw [← hread hsub hstate (Option.some.inj hdeletes), hkind]
          rfl
      | _ => cases hdeletes

end rows

/-! ### Tokens -/

section tokens
variable {libs : FlowLibs} {readOnly : Bool} {calls : ℕ → FlowCall} {i k : ℕ}
variable {c c₁ c₂ : Pool (flowService libs readOnly) OAuthFailure FlowReply} {ev : FlowEvent}
variable {reply : FlowReply} {instanceId instanceId' email secret : String}

theorem ownEvents_map {α : Type} {φ : α → FlowEvent} {evs : List FlowEvent} {h : List α}
    (hown : ownEvents i evs = h.map φ) : h.map φ ⊆ evs := by
  rw [← hown]
  exact fun ev hev => (mem_ownEvents.mp hev).1

/-- What a call has sent that is done. -/
theorem FlowReachable.ends (hplays : ∀ i, i < c.threads.length → c.Plays i ((calls i).program libs))
    (hdone : c.threads[i]? = some (.done reply)) :
    (calls i).Ends i libs reply (ownEvents i c.trace.events) :=
  (hplays i (List.getElem?_eq_some_iff.mp hdone).1).done hdone ((calls i).sends libs) reply rfl

/-- The verification of a submit code names one instance. -/
theorem FlowReachable.one_instance (hc : FlowReachable libs readOnly c)
    (hplays : ∀ i, i < c.threads.length → c.Plays i ((calls i).program libs))
    {slug given : String} (hcall : calls i = .code (.verifySubmitCode slug email given))
    (hev : ev ∈ c.trace.events) (hcaller : ev.caller = i)
    (hop : ∃ slug, ev.op = .code (.getInstanceIdBySlug slug)) :
    (ownEvents i c.trace.events).head? = some ev := by
  obtain ⟨h, rest, hown, hperm⟩ := hc.permits hplays hev
  obtain ⟨slug', hop⟩ := hop
  rw [hcaller, hcall, hop] at hperm
  rw [hcaller] at hown
  cases hperm with
  | code hop' =>
      cases hop' with
      | quiet hquiet => cases hquiet
      | checksInstance =>
          rw [hown]
          rfl

/-- A submit token has one address and one instance. -/
theorem FlowReachable.one_submitter (hlaws : FlowLaws libs) (hc : FlowReachable libs readOnly c)
    (hplays : ∀ i, i < c.threads.length → c.Plays i ((calls i).program libs)) {email' : String}
    (h : DrawsSubmitToken calls c.trace.events i instanceId email secret)
    (h' : DrawsSubmitToken calls c.trace.events k instanceId' email' secret) :
    instanceId = instanceId' ∧ email = email' := by
  have hinv := hc.inv hlaws .refl hplays
  obtain ⟨nonce, hnonce, rfl⟩ := h.drew
  obtain ⟨nonce', hnonce', hsame⟩ := h'.drew
  obtain rfl := (String.append_right_inj _).mp hsame
  obtain rfl : i = k := (hinv.draws.once _ hnonce _ hnonce' nonce rfl rfl).1
  obtain ⟨slug, given, hcall, hinst⟩ := h.call
  obtain ⟨slug', given', hcall', hinst'⟩ := h'.call
  have hhead := hc.one_instance hplays hcall hinst rfl ⟨slug, rfl⟩
  have hhead' := hc.one_instance hplays hcall hinst' rfl ⟨slug', rfl⟩
  have hevent := Option.some.inj (hhead.symm.trans hhead')
  rw [hcall] at hcall'
  cases hcall'
  cases hevent
  exact ⟨rfl, rfl⟩

end tokens

/-! ### Mails -/

section mails
variable {libs : FlowLibs} {readOnly : Bool} {calls : ℕ → FlowCall} {j : ℕ}
variable {c : Pool (flowService libs readOnly) OAuthFailure FlowReply}

/-- A code is mailed to the address that it was stored for. -/
theorem FlowReachable.mails (hc : FlowReachable libs readOnly c)
    (hplays : ∀ i, i < c.threads.length → c.Plays i ((calls i).program libs))
    {recipient subject body : String} {r : Except String Unit}
    (hev : ⟨j, .code (.sendPlainText recipient subject body), r⟩ ∈ c.trace.events) :
    (∃ code, StoresLoginCode libs calls c.trace.events j recipient code ∧
      body = codeMail "login" code) ∨
    ∃ instanceId code, StoresSubmitCode libs calls c.trace.events j instanceId recipient code ∧
      body = codeMail "verification" code := by
  obtain ⟨h, hsub, hperm⟩ := hc.permits_sub hplays hev
  generalize hcall : calls j = call at hperm
  cases hperm with
  | code hop =>
      cases hop with
      | quiet hquiet => cases hquiet
      | mailsLoginCode hemail hcode hput =>
          exact .inl ⟨_, ⟨⟨_, _, _, hcall, hemail⟩, mem_flowOfCode hsub hcode, _, _, _,
            mem_flowOfCode hsub hput⟩, rfl⟩
      | mailsSubmitCode hinst hcode hhash hput =>
          exact .inr ⟨_, _, ⟨⟨_, _, _, hcall, mem_flowOfCode hsub hinst⟩, mem_flowOfCode hsub hcode,
            _, _, _, _, hhash, mem_flowOfCode hsub hput⟩, rfl⟩

end mails

/-! ### The flows -/

section flows
variable (libs : FlowLibs) {readOnly : Bool} (calls : ℕ → FlowCall)
variable (c : Pool (flowService libs readOnly) OAuthFailure FlowReply)

/-- The flows of a run are kept apart. -/
structure FlowsApart : Prop where
  login : ∀ i raw given secret, calls i = .code (.verifyAuthCode raw given) →
    c.threads[i]? = some (.done (.token (some secret))) →
    ∃ email j, normalizeUserEmail libs.toCodeLibs raw = .ok email ∧
      StoresLoginCode libs calls c.trace.events j email given
  submit : ∀ i slug email given secret, calls i = .code (.verifySubmitCode slug email given) →
    c.threads[i]? = some (.done (.token (some secret))) →
    ∃ instanceId j, ⟨i, .code (.getInstanceIdBySlug slug), .ok (some instanceId)⟩ ∈ c.trace.events ∧
      StoresSubmitCode libs calls c.trace.events j instanceId email given ∧
      ∀ k info id, calls k = .verifyToken secret →
        c.threads[k]? = some (.done (.session (.verified info id))) →
        info = .requester email instanceId
  mails : ∀ j recipient subject body r,
    ⟨j, .code (.sendPlainText recipient subject body), r⟩ ∈ c.trace.events →
    (∃ code, StoresLoginCode libs calls c.trace.events j recipient code ∧
      body = codeMail "login" code) ∨
    ∃ instanceId code, StoresSubmitCode libs calls c.trace.events j instanceId recipient code ∧
      body = codeMail "verification" code
  endpoint : ∀ i reply s, c.threads[i]? = some (.done reply) → (calls i).secret libs = some s →
    (calls i).accepts reply → ∀ j f, FlowSecret.Issued calls c.trace.events j s f →
    f.Endpoint libs (calls i)
  puts : ∀ c₁ c₂ ev, FlowReachable libs readOnly c₁ →
    Serves (flowService libs readOnly) (IsFlowCall libs) c₁ c₂ ev →
    Run (flowService libs readOnly) (IsFlowCall libs) c₂ c → ∀ row, ev.op.puts libs = some row →
    row.kind ∈ (calls ev.caller).putsKinds ∧
      ∀ old, c₁.trace.state.db.now.states.lookup row.id = some old → old.kind = row.kind
  deletes : ∀ c₁ c₂ ev, FlowReachable libs readOnly c₁ →
    Serves (flowService libs readOnly) (IsFlowCall libs) c₁ c₂ ev →
    Run (flowService libs readOnly) (IsFlowCall libs) c₂ c → ∀ id, ev.op.deletes = some id →
    ∀ row, c₁.trace.state.db.now.states.lookup id = some row →
      (calls ev.caller).deletesKind = some row.kind

variable {libs calls c} {i k : ℕ} {raw email given secret slug s : String} {reply : FlowReply}

/-- A login code that is accepted was stored for the normalized address. -/
theorem FlowReachable.login (hlaws : FlowLaws libs) (hc : FlowReachable libs readOnly c)
    (hplays : ∀ i, i < c.threads.length → c.Plays i ((calls i).program libs))
    (hinj : Set.InjOn libs.sha256Hex {x | Hashed libs calls c.trace.events x})
    (hcall : calls i = .code (.verifyAuthCode raw given))
    (hdone : c.threads[i]? = some (.done (.token (some secret)))) :
    ∃ email j, normalizeUserEmail libs.toCodeLibs raw = .ok email ∧
      StoresLoginCode libs calls c.trace.events j email given := by
  have hends := FlowReachable.ends hplays hdone
  rw [hcall] at hends
  obtain ⟨h, hown, email, hemail, hmatch⟩ := hends
  obtain ⟨j, hstores⟩ := (hc.inv hlaws .refl hplays).loginCode hinj
    (.inl ⟨i, by rw [hcall]; rfl⟩) (ownEvents_map hown) hmatch
  exact ⟨email, j, hemail, hstores⟩

/-- A submit token that is accepted acts for the address and the instance that it was drawn for. -/
theorem FlowReachable.requester (hlaws : FlowLaws libs) (hc : FlowReachable libs readOnly c)
    (hplays : ∀ i, i < c.threads.length → c.Plays i ((calls i).program libs))
    (hinj : Set.InjOn libs.sha256Hex {x | Hashed libs calls c.trace.events x})
    {instanceId : String} (hdraws : DrawsSubmitToken calls c.trace.events i instanceId email secret)
    (hcall : calls k = .verifyToken secret) {info : AuthInfo} {id : Option String}
    (hdone : c.threads[k]? = some (.done (.session (.verified info id)))) :
    info = .requester email instanceId := by
  have hinv := hc.inv hlaws .refl hplays
  have hs : Hashed libs calls c.trace.events secret := .inl ⟨k, by rw [hcall]; rfl⟩
  have hissued : FlowSecret.Issued calls c.trace.events i secret .submitToken :=
    ⟨instanceId, email, hdraws⟩
  have hends := FlowReachable.ends hplays hdone
  rw [hcall] at hends
  obtain ⟨h, hown, hverifies⟩ := hends
  have hsub := ownEvents_map hown
  cases hverifies with
  | userToken hread =>
      obtain ⟨nonce, -, hlong⟩ := hinv.userToken hinj hs hsub hread
      rw [hissued.length hinv.draws] at hlong
      cases hlong
  | apiToken hparse => exact absurd (parseApiToken_dotted hparse) (hissued.undotted hinv.draws)
  | submitToken _ hread hpayload =>
      obtain ⟨horigin, hid⟩ := hinv.reads _ (mem_flowOfSession hsub hread)
      obtain ⟨j, instanceId', email', hdraws', hstored⟩ :=
        horigin.submitToken_of_id hlaws hinj hinv.draws hs hid
      rw [hstored, hlaws.submitToken] at hpayload
      cases hpayload
      obtain ⟨rfl, rfl⟩ := hc.one_submitter hlaws hplays hdraws hdraws'
      rfl

/-- A submit code that is accepted was stored for the address and the instance, and so is its
token. -/
theorem FlowReachable.submit (hlaws : FlowLaws libs) (hc : FlowReachable libs readOnly c)
    (hplays : ∀ i, i < c.threads.length → c.Plays i ((calls i).program libs))
    (hinj : Set.InjOn libs.sha256Hex {x | Hashed libs calls c.trace.events x})
    (hcall : calls i = .code (.verifySubmitCode slug email given))
    (hdone : c.threads[i]? = some (.done (.token (some secret)))) :
    ∃ instanceId j, ⟨i, .code (.getInstanceIdBySlug slug), .ok (some instanceId)⟩ ∈ c.trace.events ∧
      StoresSubmitCode libs calls c.trace.events j instanceId email given ∧
      DrawsSubmitToken calls c.trace.events i instanceId email secret := by
  have hends := FlowReachable.ends hplays hdone
  rw [hcall] at hends
  obtain ⟨h, hown, instanceId, nonce, hinst, hmatch, hnonce, hsecret⟩ := hends
  have hsub := ownEvents_map hown
  obtain ⟨j, hstores⟩ := (hc.inv hlaws .refl hplays).submitCode hlaws hinj
    (.inl ⟨i, by rw [hcall]; rfl⟩) (by rw [hcall]; rfl) hsub hinst hmatch
  exact ⟨instanceId, j, mem_flowOfCode hsub hinst, hstores,
    ⟨slug, given, hcall, mem_flowOfCode hsub hinst⟩, nonce, mem_flowOfCode hsub hnonce, hsecret⟩

/-- A secret is accepted by its own endpoint only. -/
theorem FlowReachable.endpoint (hlaws : FlowLaws libs) (hc : FlowReachable libs readOnly c)
    (hplays : ∀ i, i < c.threads.length → c.Plays i ((calls i).program libs))
    (hinj : Set.InjOn libs.sha256Hex {x | Hashed libs calls c.trace.events x})
    (hdone : c.threads[i]? = some (.done reply)) (hsecret : (calls i).secret libs = some s)
    (haccepts : (calls i).accepts reply) {f : FlowSecret}
    (hissued : f.Issued calls c.trace.events k s) : f.Endpoint libs (calls i) := by
  have hinv := hc.inv hlaws .refl hplays
  have hends := FlowReachable.ends hplays hdone
  generalize hcall : calls i = call at hsecret haccepts hends ⊢
  cases call with
  | code m =>
      obtain ⟨h, hown, hends⟩ := hends
      exact absurd hissued (hinv.code_endpoint hlaws hinj (ownEvents_map hown) hcall hsecret haccepts
        hends)
  | oauth call =>
      cases reply with
      | oauth reply =>
          obtain ⟨h, hown, hends⟩ := hends
          exact hinv.oauth_endpoint hlaws hinj (ownEvents_map hown) hcall hsecret haccepts hends hissued
      | _ => cases call <;> cases haccepts
  | passkey m =>
      cases reply with
      | passkey reply =>
          obtain ⟨h, hown, hends⟩ := hends
          exact hinv.passkey_endpoint hlaws (ownEvents_map hown) hsecret haccepts hends hissued
      | _ => cases m <;> cases haccepts
  | verifyToken token =>
      cases hsecret
      have hs : Hashed libs calls c.trace.events s := .inl ⟨i, by rw [hcall]; rfl⟩
      cases reply with
      | session reply =>
          cases reply with
          | verified info id =>
              obtain ⟨h, hown, hverifies⟩ := hends
              exact hinv.token_endpoint hlaws hinj (ownEvents_map hown) hs hverifies hissued
          | _ => cases haccepts
      | _ => cases haccepts

/-- What is known of a request in the middle of a run. -/
theorem FlowReachable.served (hlaws : FlowLaws libs) (hc : FlowReachable libs readOnly c)
    (hplays : ∀ i, i < c.threads.length → c.Plays i ((calls i).program libs))
    {c₁ c₂ : Pool (flowService libs readOnly) OAuthFailure FlowReply} {ev : FlowEvent}
    (h₁ : FlowReachable libs readOnly c₁)
    (hserves : Serves (flowService libs readOnly) (IsFlowCall libs) c₁ c₂ ev)
    (hafter : Run (flowService libs readOnly) (IsFlowCall libs) c₂ c) :
    (calls ev.caller).Permits ev.caller libs (ownEvents ev.caller c₁.trace.events) ev.op ∧
      FlowInv libs calls c₁.trace.state c₁.trace.events ∧
      FlowInv libs calls c₂.trace.state c₂.trace.events := by
  have hcaller := (Run.started hc (.init _)).callers ev
    ((Run.grows hafter).subset (hserves.2 ▸ List.mem_concat_self))
  have h₂ : FlowReachable libs readOnly c₂ := Relation.ReflTransGen.tail h₁ hserves.1
  exact ⟨hserves.permitted hafter (hplays _ hcaller) ((calls _).sends libs),
    FlowReachable.inv hlaws h₁ (.head hserves.1 hafter) hplays,
    FlowReachable.inv hlaws h₂ hafter hplays⟩

end flows

/-- In every run, whatever strings the clients send, the flows that share `ephemeral_state` are kept
apart. -/
theorem flow_secrets {libs : FlowLibs} {readOnly : Bool} {calls : ℕ → FlowCall}
    {c : Pool (flowService libs readOnly) OAuthFailure FlowReply} (hlaws : FlowLaws libs)
    (hc : FlowReachable libs readOnly c)
    (hplays : ∀ i, i < c.threads.length → c.Plays i ((calls i).program libs))
    (hinj : Set.InjOn libs.sha256Hex {x | Hashed libs calls c.trace.events x}) :
    FlowsApart libs calls c where
  login _ _ _ _ hcall hdone := hc.login hlaws hplays hinj hcall hdone
  submit i slug email given secret hcall hdone := by
    obtain ⟨instanceId, j, hinst, hstores, hdraws⟩ := hc.submit hlaws hplays hinj hcall hdone
    exact ⟨instanceId, j, hinst, hstores,
      fun k info id hcall' hdone' => hc.requester hlaws hplays hinj hdraws hcall' hdone'⟩
  mails _ _ _ _ _ hev := hc.mails hplays hev
  endpoint _ _ _ hdone hsecret haccepts _ _ hissued :=
    hc.endpoint hlaws hplays hinj hdone hsecret haccepts hissued
  puts c₁ c₂ ev h₁ hserves hafter row hputs := by
    obtain ⟨hperm, hinv, hinv'⟩ := hc.served hlaws hplays h₁ hserves hafter
    refine ⟨hperm.putsKind hputs, fun old hold => ?_⟩
    obtain ⟨hid, horigin⟩ := hinv.states _ (Replica.committed_now _) _ old hold
    have hnew : Origin libs calls (c₁.trace.events ++ [ev]) row :=
      hperm.origin hlaws (fun ev hev => (mem_ownEvents.mp hev).1) hinv.reads ev.res hputs
    rw [hserves.2] at hinv'
    exact (horigin.mono (List.subset_append_left _ _)).kind_unique hlaws hinv'.draws hnew hid
  deletes c₁ c₂ ev h₁ hserves hafter id hdeletes row hrow := by
    obtain ⟨hperm, hinv, -⟩ := hc.served hlaws hplays h₁ hserves hafter
    obtain ⟨rfl, horigin⟩ := hinv.states _ (Replica.committed_now _) _ row hrow
    exact hperm.deletesKind hlaws hinv (fun ev hev => (mem_ownEvents.mp hev).1) hdeletes horigin

/-! ### Sample libraries

The texts of the payloads of the runs are the real ones; the texts of the others only tell them
apart. -/

section texts
variable {α : Type} [DecidableEq α] (samples : List (α × String)) (number : α → ℕ)
variable (ofNumber : ℕ → Option α)

/-- The text of a value: one of the samples, or as many letters as its number. -/
def sampleText (a : α) : String :=
  (samples.lookup a).getD (String.ofList (List.replicate (number a) 'a'))

def ofSampleText (s : String) : Option α :=
  ((samples.find? fun sample => sample.2 == s).map Prod.fst).or (ofNumber s.length)

variable {samples number ofNumber}

theorem ofSampleText_sampleText (hnumber : ∀ a, ofNumber (number a) = some a)
    (hsamples : ∀ sample ∈ samples, '\x7b' ∈ sample.2.toList ∧
      (samples.find? fun other => other.2 == sample.2).map Prod.fst = some sample.1) (a : α) :
    ofSampleText samples ofNumber (sampleText samples number a) = some a := by
  unfold ofSampleText sampleText
  cases hlookup : samples.lookup a with
  | some text =>
      obtain ⟨before, after, hsplit, -⟩ := List.lookup_eq_some_iff.mp hlookup
      have hmem : (a, text) ∈ samples := by
        rw [hsplit]
        simp
      rw [Option.getD_some, (hsamples _ hmem).2]
      rfl
  | none =>
      have hother : (samples.find? fun sample =>
          sample.2 == String.ofList (List.replicate (number a) 'a')) = none := by
        rw [List.find?_eq_none]
        intro sample hmem heq
        have hbrace := (hsamples sample hmem).1
        rw [eq_of_beq heq, String.toList_ofList] at hbrace
        exact absurd (List.mem_replicate.mp hbrace).2 (by decide)
      rw [Option.getD_none, hother, Option.map_none, Option.none_or, String.length_ofList,
        List.length_replicate, hnumber]

end texts

/-- The SHA-256 digests of the texts of the runs; of the others, only the length. -/
def flowDigests : List (String × String) :=
  [("000042", "9e3acb89b9d56624b229a2a8f0811e3b21b2eeb6fea8d439b37e0fa92d9a38df"),
    ("i1:ann@example.org", "481b402414c4607966de51f31f57c350fbf6af7a3461a24f596fa09707a7367b"),
    ("mts_14f000000000000000000A",
      "66efa6c2e5485883eefc86b9f84c3ce16a0fad99da4a0c307e8684764d30da94"),
    ("mtu_14f000000000000000000000000000000000000000A",
      "c91e8a90c196a0015a80b7bb2e5e08764ed53e5d35ac01faa9eb35825b8969e8")]

def flowHash (s : String) : String :=
  (flowDigests.lookup s).getD (String.ofList (List.replicate 64 '0'))

theorem flowHash_length (s : String) : (flowHash s).length = 64 := by
  unfold flowHash
  cases hlookup : flowDigests.lookup s with
  | none =>
      rw [Option.getD_none, String.length_ofList, List.length_replicate]
  | some digest =>
      obtain ⟨before, after, hsplit, -⟩ := List.lookup_eq_some_iff.mp hlookup
      have hmem : (s, digest) ∈ flowDigests := by
        rw [hsplit]
        simp
      have hall : ∀ pair ∈ flowDigests, pair.2.length = 64 := by decide
      exact hall _ hmem

/-- The payloads of the submit codes of the runs, with their JSON. -/
def submitCodeTexts : List (SubmitCodePayload × String) :=
  [(⟨flowHash "000042", 0, 1782777600⟩, "\x7b\"code_hash\":\"" ++ flowHash "000042" ++
      "\",\"attempts\":0,\"last_sent_at\":1782777600\x7d"),
    (⟨flowHash "000042", 1, 1782777600⟩, "\x7b\"code_hash\":\"" ++ flowHash "000042" ++
      "\",\"attempts\":1,\"last_sent_at\":1782777600\x7d")]

/-- The payload of the submit token of the run, with its JSON. -/
def submitTokenTexts : List ((String × String) × String) :=
  [(("ann@example.org", "i1"),
    "\x7b\"email\":\"ann@example.org\",\"instance_id\":\"i1\"\x7d")]

def submitCodeNumber (payload : SubmitCodePayload) : ℕ :=
  Encodable.encode (codePoints payload.codeHash, payload.attempts, payload.lastSentAt)

def ofSubmitCodeNumber (n : ℕ) : Option SubmitCodePayload :=
  (Encodable.decode n : Option (List ℕ × ℕ × ℕ)).map fun (codeHash, attempts, lastSentAt) =>
    ⟨ofCodePoints codeHash, attempts, lastSentAt⟩

def submitTokenNumber (payload : String × String) : ℕ :=
  Encodable.encode (codePoints payload.1, codePoints payload.2)

def ofSubmitTokenNumber (n : ℕ) : Option (String × String) :=
  (Encodable.decode n : Option (List ℕ × List ℕ)).map fun (email, instanceId) =>
    (ofCodePoints email, ofCodePoints instanceId)

def registrationNumber (userId : Option String) (state : PasskeyRegistration) : ℕ :=
  Encodable.encode (userId.map codePoints, codePoints state.challenge, state.exclude.map codePoints)

def ofRegistrationNumber (n : ℕ) : Option (Option String × PasskeyRegistration) :=
  (Encodable.decode n : Option (Option (List ℕ) × List ℕ × List (List ℕ))).map
    fun (userId, challenge, exclude) => (userId.map ofCodePoints, ⟨ofCodePoints challenge, exclude.map ofCodePoints⟩)

theorem ofSubmitCodeNumber_submitCodeNumber (payload : SubmitCodePayload) :
    ofSubmitCodeNumber (submitCodeNumber payload) = some payload := by
  unfold ofSubmitCodeNumber submitCodeNumber
  rw [Encodable.encodek, Option.map_some]
  dsimp only
  rw [ofCodePoints_codePoints]

theorem ofSubmitTokenNumber_submitTokenNumber (payload : String × String) :
    ofSubmitTokenNumber (submitTokenNumber payload) = some payload := by
  unfold ofSubmitTokenNumber submitTokenNumber
  rw [Encodable.encodek, Option.map_some]
  dsimp only
  rw [ofCodePoints_codePoints, ofCodePoints_codePoints]

theorem ofRegistrationNumber_registrationNumber (userId : Option String)
    (state : PasskeyRegistration) :
    ofRegistrationNumber (registrationNumber userId state) = some (userId, state) := by
  have hid : ofCodePoints ∘ codePoints = id := funext ofCodePoints_codePoints
  unfold ofRegistrationNumber registrationNumber
  rw [Encodable.encodek, Option.map_some]
  dsimp only
  rw [Option.map_map, List.map_map, hid, ofCodePoints_codePoints, Option.map_id, List.map_id]
  rfl

/-- The texts of the states of passkeys. -/
def registrationText (userId : Option String) : StateJson → String
  | .registration state => String.ofList (List.replicate (registrationNumber userId state) 'a')
  | _ => ""

def ofRegistrationText (s : String) : StatePayload :=
  (ofRegistrationNumber s.length).elim (.text s)
    fun payload => .webauthn payload.1 (.registration payload.2)

theorem ofRegistrationText_registrationText (userId : Option String) (state : PasskeyRegistration) :
    ofRegistrationText (registrationText userId (.registration state)) =
      .webauthn userId (.registration state) := by
  unfold ofRegistrationText registrationText
  rw [String.length_ofList, List.length_replicate, ofRegistrationNumber_registrationNumber,
    Option.elim_some]

def ofSubmitTokenText (s : String) : Except String (String × String) :=
  (ofSampleText submitTokenTexts ofSubmitTokenNumber s).elim
    (.error "expected value at line 1 column 1") .ok

theorem ofSubmitTokenText_sampleText (payload : String × String) :
    ofSubmitTokenText (sampleText submitTokenTexts submitTokenNumber payload) = .ok payload := by
  unfold ofSubmitTokenText
  rw [ofSampleText_sampleText ofSubmitTokenNumber_submitTokenNumber (by decide +kernel),
    Option.elim_some]

def sampleFlowLibs : FlowLibs where
  toLowercase := id
  debug s := "\"" ++ s ++ "\""
  sha256Hex := flowHash
  parseSubmitToken := ofSubmitTokenText
  oauth := { sampleOAuthLibs with sha256Hex := flowHash }
  webauthn := { sampleWebauthnLibs with sha256Hex := flowHash }
  serializeSubmitCode := sampleText submitCodeTexts submitCodeNumber
  parseSubmitCode := ofSampleText submitCodeTexts ofSubmitCodeNumber
  serializeSubmitToken email instanceId :=
    sampleText submitTokenTexts submitTokenNumber (email, instanceId)
  serializeWebauthnState := registrationText
  parseWebauthnState := ofRegistrationText

theorem sampleFlowLibs_laws : FlowLaws sampleFlowLibs where
  submitCode := ofSampleText_sampleText ofSubmitCodeNumber_submitCodeNumber (by decide +kernel)
  submitToken email instanceId := ofSubmitTokenText_sampleText (email, instanceId)
  registration := by
    have hparse : sampleFlowLibs.parseWebauthnState = ofRegistrationText := rfl
    have hserialize : sampleFlowLibs.serializeWebauthnState = registrationText := rfl
    rw [hparse, hserialize]
    exact ofRegistrationText_registrationText
  oauthHash := rfl
  webauthnHash := rfl
  digits := flowHash_length

/-! ### Sample runs -/

/-- The answers of the other tables: an enabled user, a public instance, no failure. -/
def flowAnswers : (op : FlowOp) → op.Res
  | .code op => ((codeService false true).serve ⟨⟨⟨∅, ∅, []⟩, []⟩, []⟩ (sampleCodeEnv "" 0) op).1
  | .oauth op => (sampleOAuth.serve emptyOAuthStore (sampleOAuthEnv 0) op).1
  | .passkey op => ((passkeyService false).serve ⟨⟨⟨∅, ∅, []⟩, []⟩⟩ (samplePasskeyEnv "") op).1
  | .session op => (sampleSessions.serve emptySessionStore (sampleSessionEnv 0 1782777600) op).1

/-- A text of its own for every choice. -/
def drawnText (w n : ℕ) : String :=
  String.ofList ((Nat.toDigits 10 n ++ 'f' :: List.replicate w '0').take w)

/-- The `n`-th choice. -/
def sampleFlowEnv (n : ℕ) (fault : Fault) : FlowEnv where
  now := 1782777600
  random := 42
  nonce bytes := drawnText (if bytes = 16 then 21 else 42) n ++ "A"
  id := drawnText 32 n
  lag := 0
  fault := fault
  instanceId := .ok (some "i1")
  answer := flowAnswers

abbrev FlowMove : Type := Move (flowService sampleFlowLibs false) (IsFlowCall sampleFlowLibs)

abbrev FlowPool : Type := Pool (flowService sampleFlowLibs false) OAuthFailure FlowReply

/-- The requests of the programs in this order, from the `n`-th choice on. -/
def flowServes (n : ℕ) (order : List ℕ) : List FlowMove :=
  order.mapIdx fun k i => .serve i (sampleFlowEnv (n + k) .none)

/-- The calls are made, and then served. -/
def flowPool (calls : List FlowCall) (serves : List FlowMove) : FlowPool :=
  (Pool.init (S := flowService sampleFlowLibs false) emptyFlowStore).play
    (calls.map (fun call => .start (call.program sampleFlowLibs) ⟨call, rfl⟩) ++ serves)

/-- The calls of a list; the other programs do not run. -/
def listedCall (calls : List FlowCall) (i : ℕ) : FlowCall :=
  calls[i]?.getD (.passkey .beginPasskeyLogin)

section pools
variable {list : List FlowCall} {serves : List FlowMove}

theorem flowPool_reachable : FlowReachable sampleFlowLibs false (flowPool list serves) :=
  Pool.play_run _ _

theorem flowPool_plays (hlength : (flowPool list serves).threads.length = list.length) :
    ∀ i, i < (flowPool list serves).threads.length →
      (flowPool list serves).Plays i ((listedCall list i).program sampleFlowLibs) := by
  intro i hi
  rw [hlength] at hi
  have hcall : list[i]? = some (listedCall list i) := by
    unfold listedCall
    rw [List.getElem?_eq_getElem hi, Option.getD_some]
  exact Pool.calls_plays (S := flowService sampleFlowLibs false) hcall

/-- Everything that is hashed is hashed by a call of the list or in an event. -/
theorem Hashed.mem {evs : List FlowEvent} {s : String}
    (h : Hashed sampleFlowLibs (listedCall list) evs s) :
    s ∈ list.filterMap (FlowCall.hashes sampleFlowLibs) ++
      evs.flatMap (hashedAfter (listedCall list)) := by
  rcases h with ⟨i, hi⟩ | ⟨ev, hev, hs⟩
  · refine List.mem_append_left _ (List.mem_filterMap.mpr ⟨listedCall list i, ?_, hi⟩)
    unfold listedCall at hi ⊢
    cases hcall : list[i]? with
    | none =>
        rw [hcall] at hi
        cases hi
    | some call => exact List.mem_of_getElem? hcall
  · exact List.mem_append_right _ (List.mem_flatMap.mpr ⟨ev, hev, hs⟩)

/-- If the strings that are hashed are among some with different digests, no two of them collide. -/
theorem flowPool_injOn {evs : List FlowEvent} {strings : List String}
    (hmem : ∀ s ∈ list.filterMap (FlowCall.hashes sampleFlowLibs) ++
      evs.flatMap (hashedAfter (listedCall list)), s ∈ strings)
    (hnodup : (strings.map flowHash).Nodup) :
    Set.InjOn sampleFlowLibs.sha256Hex {x | Hashed sampleFlowLibs (listedCall list) evs x} :=
  fun _ hs _ hs' heq => List.inj_on_of_nodup_map hnodup (hmem _ hs.mem) (hmem _ hs'.mem) heq

end pools

/-- A client requests a submit code, verifies it, and presents the token. -/
def submitCalls : List FlowCall :=
  [.code (.requestSubmitCode "help" "ann@example.org" none none),
    .code (.verifySubmitCode "help" "ann@example.org" "000042"),
    .verifyToken "mts_14f000000000000000000A"]

def submitPool : FlowPool :=
  flowPool submitCalls (flowServes 0 (List.replicate 8 0 ++ List.replicate 9 1 ++ [2, 2]))

theorem submit_run : submitPool.threads.length = 3 ∧
    submitPool.value 1 = some (.token (some "mts_14f000000000000000000A")) ∧
    submitPool.value 2 = some (.session (.verified (.requester "ann@example.org" "i1") none)) ∧
    submitCalls.filterMap (FlowCall.hashes sampleFlowLibs) ++
      submitPool.trace.events.flatMap (hashedAfter (listedCall submitCalls)) =
      ["000042", "mts_14f000000000000000000A", "i1:ann@example.org", "000042",
        "i1:ann@example.org", "mts_14f000000000000000000A"] ∧
    (["000042", "mts_14f000000000000000000A", "i1:ann@example.org"].map flowHash).Nodup := by
  decide +kernel

/-- In this run the token that is returned acts for the address and the instance. -/
theorem flow_secrets_submit :
    submitPool.value 1 = some (.token (some "mts_14f000000000000000000A")) ∧
    submitPool.value 2 = some (.session (.verified (.requester "ann@example.org" "i1") none)) ∧
    FlowsApart sampleFlowLibs (listedCall submitCalls) submitPool := by
  obtain ⟨hlength, htoken, hinfo, hhashed, hnodup⟩ := submit_run
  have hinj : Set.InjOn sampleFlowLibs.sha256Hex
      {x | Hashed sampleFlowLibs (listedCall submitCalls) submitPool.trace.events x} := by
    refine flowPool_injOn ?_ hnodup
    rw [hhashed]
    simp
  exact ⟨htoken, hinfo,
    flow_secrets (c := submitPool) sampleFlowLibs_laws flowPool_reachable (flowPool_plays hlength)
      hinj⟩

/-! ### A code that was not sent -/

/-- A login code is requested, and verified. -/
def unsentCalls : List FlowCall :=
  [.code (.requestAuthCode "ann@example.org" none none),
    .code (.verifyAuthCode "ann@example.org" "000042")]

/-- The write of the code is applied, and its answer is lost. -/
def unsentPool : FlowPool :=
  flowPool unsentCalls (flowServes 0 (List.replicate 6 0) ++
    [.serve 0 (sampleFlowEnv 6 .unacknowledged)] ++ flowServes 7 (List.replicate 10 1))

def FlowOp.mails : FlowOp → Bool
  | .code (.sendPlainText ..) => true
  | _ => false

theorem unsent_run : unsentPool.threads.length = 2 ∧
    unsentPool.value 1 = some (.token (some "mtu_14f000000000000000000000000000000000000000A")) ∧
    (unsentPool.trace.events.all fun ev => !ev.op.mails) = true ∧
    unsentCalls.filterMap (FlowCall.hashes sampleFlowLibs) ++
      unsentPool.trace.events.flatMap (hashedAfter (listedCall unsentCalls)) =
      ["000042", "000042", "mtu_14f000000000000000000000000000000000000000A"] ∧
    (["000042", "mtu_14f000000000000000000000000000000000000000A"].map flowHash).Nodup := by
  decide +kernel

/-- A login code may be accepted that no call has sent. -/
theorem unsent_code_accepted :
    ¬ ∀ (libs : FlowLibs) (readOnly : Bool) (calls : ℕ → FlowCall)
      (c : Pool (flowService libs readOnly) OAuthFailure FlowReply), FlowLaws libs →
      FlowReachable libs readOnly c →
      (∀ i, i < c.threads.length → c.Plays i ((calls i).program libs)) →
      Set.InjOn libs.sha256Hex {x | Hashed libs calls c.trace.events x} →
      ∀ i raw given secret, calls i = .code (.verifyAuthCode raw given) →
        c.threads[i]? = some (.done (.token (some secret))) →
        ∃ j raw' token ip email subject r, calls j = .code (.requestAuthCode raw' token ip) ∧
          normalizeUserEmail libs.toCodeLibs raw = .ok email ∧
          normalizeUserEmail libs.toCodeLibs raw' = .ok email ∧
          ⟨j, .code (.sendPlainText email subject (codeMail "login" given)), r⟩ ∈
            c.trace.events := by
  intro hclaim
  obtain ⟨hlength, htoken, hunsent, hhashed, hnodup⟩ := unsent_run
  have hinj : Set.InjOn sampleFlowLibs.sha256Hex
      {x | Hashed sampleFlowLibs (listedCall unsentCalls) unsentPool.trace.events x} := by
    refine flowPool_injOn ?_ hnodup
    rw [hhashed]
    simp
  obtain ⟨j, raw', token, ip, email, subject, r, -, -, -, hsent⟩ :=
    hclaim sampleFlowLibs false (listedCall unsentCalls) unsentPool sampleFlowLibs_laws
      flowPool_reachable (flowPool_plays hlength) hinj 1 _ _ _ rfl (Pool.value_some htoken)
  have hmails := List.all_eq_true.mp hunsent _ hsent
  cases hmails

end Microticket

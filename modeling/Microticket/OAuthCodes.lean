import Microticket.History
import Microticket.OAuthReuse

/-! # Authorization codes

The row of a code is loaded and then deleted, before anything else is checked.  Two requests that both
load it before either of them deletes it both go on, and both get tokens (`oauth_code_race`).  If the
loads see the latest row, and between the load and the deletion of one request no other request loads
the row, a code is exchanged at most once (`oauth_code_once`). -/

namespace Microticket

open Interleaving Tables

/-! ### Rows of codes -/

/-- A program that stored the row of a code drew the code with this row. -/
def CodeStored (libs : OAuthLibs) (evs : List OAuthEvent) (stateId : String) : Prop :=
  ∃ j code, Drew j evs code ∧ stateId = oauthCodeStateId (libs.sha256Hex code) ∧
    ∃ ev ∈ evs, ev.caller = j ∧ ev.op.storesCode

section rows
variable {readOnly consistent : Bool} {libs : OAuthLibs} {i : ℕ} {stateId : String}
variable {t : Trace (oauthService readOnly consistent)} {e : OAuthEnv} {op : OAuthOp}

theorem oauthCodeStateId_inj {hash hash' : String}
    (h : oauthCodeStateId hash = oauthCodeStateId hash') : hash = hash' :=
  (String.append_right_inj _).mp h

theorem CodeStored.mono {evs evs' : List OAuthEvent} (h : CodeStored libs evs stateId)
    (hsub : ∀ ev ∈ evs, ev ∈ evs') : CodeStored libs evs' stateId := by
  obtain ⟨j, code, hdrew, hid, ev, hev, hcaller, hstores⟩ := h
  exact ⟨j, code, hsub _ hdrew, hid, ev, hsub _ hev, hcaller, hstores⟩

/-- The row of a code is stored once. -/
theorem DrawnOnce.not_codeStored {evs : List OAuthEvent} (h : DrawnOnce evs) {code : String}
    (hdrew : Drew i evs code) (hunsent : Unsent OAuthOp.storesCode (ownEvents i evs))
    (hcoll : NoCollision libs evs fun code => code) :
    ¬ CodeStored libs evs (oauthCodeStateId (libs.sha256Hex code)) := by
  rintro ⟨j, code', hdrew', hid, ev, hev, hcaller, hstores⟩
  obtain rfl := hcoll i j code code' hdrew hdrew' (oauthCodeStateId_inj hid)
  have hi := h.nonce hdrew hdrew'
  rw [hunsent ev (mem_ownEvents.mpr ⟨hev, hcaller.trans hi.symm⟩)] at hstores
  cases hstores

/-- Every row of every version was stored by a program that drew its code. -/
def CodeRows (libs : OAuthLibs) (t : Trace (oauthService readOnly consistent)) : Prop :=
  ∀ d stateId row, (oauthDb t).Committed d → d.states.lookup stateId = some row →
    CodeStored libs t.events stateId

theorem CodeRows.serve (h : CodeRows libs t) (hop : op.ordered libs i (ownEvents i t.events)) :
    CodeRows libs (t.serve i e op) := by
  intro d stateId row hd hrow
  have hold : ∀ {d row}, (oauthDb t).Committed d → d.states.lookup stateId = some row →
      CodeStored libs (t.serve i e op).events stateId :=
    fun hd hrow => (h _ stateId _ hd hrow).mono fun _ => mem_serve
  rcases oauthDb_serve t i e op with hdb | ⟨d', hchange, hdb⟩
  · rw [hdb] at hd
    exact hold hd hrow
  rw [hdb] at hd
  rcases List.mem_cons.mp hd with rfl | hd
  · cases OAuthDb.states_move hchange with
    | same heq =>
        rw [heq] at hrow
        exact hold (Replica.committed_now _) hrow
    | delete heq =>
        rw [heq, Table.lookup_erase_if] at hrow
        split at hrow
        · cases hrow
        · exact hold (Replica.committed_now _) hrow
    | put hput heq =>
        subst hput
        rw [heq, Table.lookup_insert_if] at hrow
        split at hrow
        · rename_i hid
          subst hid
          obtain ⟨-, code, hdrew, hid⟩ := hop
          exact ⟨i, code, mem_serve (mem_ownEvents.mp hdrew).1, hid, _, mem_last, rfl, rfl⟩
        · exact hold (Replica.committed_now _) hrow
  · exact hold hd hrow

/-- A row that is gone is not stored again. -/
theorem OAuthInvariant.code_gone (h : OAuthInvariant libs t)
    (hop : op.ordered libs i (ownEvents i t.events))
    (hcoll : NoCollision libs t.events fun code => code) (hstored : CodeStored libs t.events stateId)
    (hgone : (oauthDb t).now.states.lookup stateId = none) :
    (oauthDb (t.serve i e op)).now.states.lookup stateId = none := by
  rcases oauthDb_serve t i e op with hdb | ⟨d', hchange, hdb⟩
  · rw [hdb]
    exact hgone
  rw [hdb, Replica.write_now]
  cases OAuthDb.states_move hchange with
  | same heq =>
      rw [heq]
      exact hgone
  | delete heq =>
      rw [heq, Table.lookup_erase_if]
      split
      · rfl
      · exact hgone
  | put hput heq =>
      subst hput
      rw [heq, Table.lookup_insert_if]
      split
      · rename_i hid
        subst hid
        obtain ⟨hunsent, code, hdrew, rfl⟩ := hop
        exact absurd hstored (h.once.not_codeStored (mem_ownEvents.mp hdrew).1 hunsent hcoll)
      · exact hgone

end rows

/-! ### Runs -/

section runs
variable {readOnly consistent : Bool} {libs : OAuthLibs} {i j : ℕ} {stateId code : String}
variable {c c₁ c₂ c' : Pool (oauthService readOnly consistent) OAuthFailure OAuthReply}

theorem OAuthReachable.code_rows (h : OAuthReachable libs c) : CodeRows libs c.trace := by
  refine OAuthReachable.keeps (P := fun _ => True) (K := CodeRows libs) (.refl) h
    (fun _ _ hop _ hrows => hrows.serve hop) (fun _ _ => trivial) ?_
  intro d stateId row hd hrow
  obtain rfl := List.mem_singleton.mp hd
  cases hrow

/-- The row of a code that was deleted is never stored again. -/
theorem OAuthReachable.code_gone (h : OAuthReachable libs c)
    (hrun : Run (oauthService readOnly consistent) (IsOAuthCall libs) c c')
    (hcoll : NoCollision libs c'.trace.events fun code => code)
    (hstored : CodeStored libs c.trace.events stateId)
    (hgone : (oauthDb c.trace).now.states.lookup stateId = none) :
    (oauthDb c'.trace).now.states.lookup stateId = none := by
  refine (h.keeps (P := fun _ => True) (K := fun t => NoCollision libs t.events (fun code => code) →
    CodeStored libs t.events stateId ∧ (oauthDb t).now.states.lookup stateId = none) hrun ?_
    (fun _ _ => trivial) (fun _ => ⟨hstored, hgone⟩) hcoll).2
  intro t i e op hinv _ hop _ hkept hcoll
  have hcoll' := hcoll.serve
  obtain ⟨hstored, hgone⟩ := hkept hcoll'
  exact ⟨hstored.mono fun _ => mem_serve, hinv.code_gone hop hcoll' hstored hgone⟩

/-- A deletion that was answered has removed the row. -/
theorem delete_gone (h : Serves (oauthService readOnly consistent) (IsOAuthCall libs) c₁ c₂
    ⟨i, .deleteEphemeralState stateId, .ok ()⟩) :
    (oauthDb c₂.trace).now.states.lookup stateId = none := by
  obtain ⟨e, -, -, -, htrace, hres⟩ := h.trace
  obtain ⟨d, hchange, hdb⟩ := OAuthStore.write_ok hres.symm
  cases hchange
  have hdb' : oauthDb c₂.trace = (oauthDb c₁.trace).write _ := (congrArg oauthDb htrace).trans hdb
  rw [hdb', Replica.write_now]
  exact AList.lookup_erase stateId _

/-- Program `i` exchanged the code: it was given tokens for it. -/
def Exchanges (libs : OAuthLibs) (c : Pool (oauthService readOnly consistent) OAuthFailure OAuthReply)
    (i : ℕ) (code : String) : Prop :=
  (∃ host body, c.Plays i (token libs host body) ∧
    bodyParams libs body "grant_type" = some "authorization_code" ∧
    bodyParams libs body "code" = some code) ∧
  ∃ access refresh scope, c.threads[i]? = some (.done (.tokens access refresh scope))

/-- Its history begins with the load of the row of the code and the deletion of that. -/
theorem Exchanges.history (h : Exchanges libs c i code) :
    Exchanged i (oauthCodeStateId (libs.sha256Hex code)) (ownEvents i c.trace.events) := by
  obtain ⟨⟨host, body, hplays, hgrant, hcode⟩, access, refresh, scope, hdone⟩ := h
  refine hplays.done hdone (G := fun h op => op.ordered libs i h)
    (Q := fun r h => ∀ reply, r = .ok reply →
      Exchanged i (oauthCodeStateId (libs.sha256Hex code)) h) ?_ _ rfl
  unfold token
  rw [hgrant]
  exact ordered_tokenAuthorizationCode hcode

/-- The requests that load the row `stateId`, and those that delete it. -/
def OAuthOp.loads (stateId : String) : OAuthOp → Bool
  | .getEphemeralState id => id == stateId
  | _ => false

def OAuthOp.deletes (stateId : String) : OAuthOp → Bool
  | .deleteEphemeralState id => id == stateId
  | _ => false

/-- Between the load and the deletion of a row by one program no other program loads it. -/
abbrev LoadedUndisturbed (evs : List OAuthEvent) : Prop :=
  Undisturbed OAuthOp.loads OAuthOp.deletes OAuthOp.loads evs

end runs

section claim
variable {readOnly : Bool} {libs : OAuthLibs} {i j : ℕ} {stateId code : String}
variable {c c₁ c₂ c' : Pool (oauthService readOnly true) OAuthFailure OAuthReply}
variable {row row' : EphemeralRow}

/-- A load that sees the latest version sees the row that is there. -/
theorem load_sees
    (h : Serves (oauthService readOnly true) (IsOAuthCall libs) c₁ c₂
      ⟨i, .getEphemeralState stateId, .ok (some row)⟩) :
    (oauthDb c₁.trace).now.states.lookup stateId = some row := by
  obtain ⟨e, -, -, hallowed, -, hres⟩ := h.trace
  have hseen := OAuthStore.read_ok hres.symm
  rw [hallowed.2.2.2 rfl] at hseen
  exact hseen.symm

/-- After a program has loaded and deleted the row, no other program finds it. -/
theorem no_second_load (h : OAuthReachable libs c₁)
    (hload : Serves (oauthService readOnly true) (IsOAuthCall libs) c₁ c₂
      ⟨i, .getEphemeralState stateId, .ok (some row)⟩)
    (hrun : Run (oauthService readOnly true) (IsOAuthCall libs) c₂ c)
    (hdelete : ⟨i, .deleteEphemeralState stateId, .ok ()⟩ ∈ c₂.since c)
    (hcoll : NoCollision libs c.trace.events fun code => code)
    (hu : LoadedUndisturbed c.trace.events) (hne : j ≠ i)
    (hload' : ⟨j, .getEphemeralState stateId, .ok (some row')⟩ ∈ c₂.since c) : False := by
  obtain ⟨c₃, c₄, hrun₃, hserves, hrun₄⟩ := Run.split hrun hload'
  have hc₂ : OAuthReachable libs c₂ := h.trans (.single hload.1)
  rw [Run.since_serves hrun₃ hserves hrun₄] at hdelete
  rcases List.mem_append.mp hdelete with hbefore | hafter
  · -- the row was deleted before the second load, which cannot find it
    obtain ⟨c₅, c₆, hrun₅, hdeletes, hrun₆⟩ := Run.split hrun₃ hbefore
    have hrun₁₆ : Run (oauthService readOnly true) (IsOAuthCall libs) c₁ c₆ :=
      (Relation.ReflTransGen.head hload.1 hrun₅).tail hdeletes.1
    have hstored : CodeStored libs c₆.trace.events stateId :=
      (h.code_rows _ _ _ (Replica.committed_now _) (load_sees hload)).mono
        fun _ hev => hrun₁₆.grows.subset hev
    have hgone := delete_gone hdeletes
    have hcoll₃ := hcoll.mono fun _ hev => (Run.grows (.head hserves.1 hrun₄)).subset hev
    have hnone := (h.trans hrun₁₆).code_gone hrun₆ hcoll₃ hstored hgone
    rw [load_sees hserves] at hnone
    cases hnone
  · -- the second load came between the load and the deletion
    have hdelete' := (List.mem_cons.mp hafter).resolve_left nofun
    have hall : c.trace.events = c₁.trace.events ++ ⟨i, .getEphemeralState stateId, .ok (some row)⟩ ::
        (c₂.since c₃ ++ ⟨j, .getEphemeralState stateId, .ok (some row')⟩ :: c₄.since c) := by
      rw [← Run.since_serves hrun₃ hserves hrun₄]
      obtain ⟨more, hmore⟩ := hrun.grows
      rw [Pool.since, ← hmore, List.drop_left, hload.2, List.append_assoc]
      rfl
    have hsub : [⟨i, .getEphemeralState stateId, .ok (some row)⟩,
        ⟨j, .getEphemeralState stateId, .ok (some row')⟩,
        (⟨i, .deleteEphemeralState stateId, .ok ()⟩ : OAuthEvent)].Sublist c.trace.events := by
      rw [hall]
      have hlast := (List.singleton_sublist.mpr hdelete').cons_cons
        (⟨j, .getEphemeralState stateId, .ok (some row')⟩ : OAuthEvent)
      exact ((hlast.trans (List.sublist_append_right _ _)).cons_cons _).trans
        (List.sublist_append_right _ _)
    have hloads : OAuthOp.loads stateId (.getEphemeralState stateId) := beq_self_eq_true stateId
    have hdeletes : OAuthOp.deletes stateId (.deleteEphemeralState stateId) :=
      beq_self_eq_true stateId
    exact hne (hu _ _ _ stateId hsub hloads hloads hdeletes rfl)

/-- A program that exchanges a code deletes the row after it has loaded it. -/
theorem Exchanges.deletes (hi : Exchanges libs c i code)
    (hload : Serves (oauthService readOnly true) (IsOAuthCall libs) c₁ c₂
      ⟨i, .getEphemeralState (oauthCodeStateId (libs.sha256Hex code)), .ok (some row)⟩)
    (hrun : Run (oauthService readOnly true) (IsOAuthCall libs) c₂ c) :
    ⟨i, .deleteEphemeralState (oauthCodeStateId (libs.sha256Hex code)), .ok ()⟩ ∈ c₂.since c := by
  obtain ⟨row', rest, hown⟩ := hi.history
  obtain ⟨host, body, hplays, -⟩ := hi.1
  -- the load is the first request of the program
  have hempty : ownEvents i c₁.trace.events = [] :=
    hload.permitted hrun hplays (ordered_token host body)
  have hdelete : ⟨i, .deleteEphemeralState (oauthCodeStateId (libs.sha256Hex code)), .ok ()⟩ ∈
      ownEvents i c.trace.events := by
    rw [hown]
    exact List.mem_cons_of_mem _ List.mem_cons_self
  refine hrun.since_of_new (mem_ownEvents.mp hdelete).1 fun hbefore => ?_
  rw [hload.2] at hbefore
  rcases List.mem_append.mp hbefore with hbefore | heq
  · have hmem := mem_ownEvents.mpr ⟨hbefore, rfl⟩
    rw [hempty] at hmem
    cases hmem
  · cases List.mem_singleton.mp heq

/-- In every run whose loads see the latest row, and in which no other program loads the row of a code
between the load and the deletion of one, a code is exchanged at most once. -/
theorem oauth_code_once (h : OAuthReachable libs c)
    (hcoll : NoCollision libs c.trace.events fun code => code)
    (hu : LoadedUndisturbed c.trace.events) (code : String) (i j : ℕ)
    (hi : Exchanges libs c i code) (hj : Exchanges libs c j code) : i = j := by
  by_contra hne
  obtain ⟨rowi, resti, howni⟩ := hi.history
  obtain ⟨rowj, restj, hownj⟩ := hj.history
  have hloadi := (mem_ownEvents.mp (howni ▸ List.mem_cons_self)).1
  have hloadj := (mem_ownEvents.mp (hownj ▸ List.mem_cons_self)).1
  obtain ⟨c₁, c₂, hrun₁, hserves, hrun₂⟩ := Run.split h hloadi
  have hall : c.trace.events = c₁.trace.events ++ _ :: c₂.since c :=
    Run.since_serves hrun₁ hserves hrun₂
  rw [hall] at hloadj
  rcases List.mem_append.mp hloadj with hbefore | hafter
  · -- program `j` loaded the row first
    obtain ⟨c₃, c₄, hrun₃, hserves', hrun₄⟩ := Run.split hrun₁ hbefore
    have hrun : Run (oauthService readOnly true) (IsOAuthCall libs) c₄ c :=
      (hrun₄.tail hserves.1).trans hrun₂
    exact no_second_load hrun₃ hserves' hrun (hj.deletes hserves' hrun) hcoll hu hne
      (hrun₄.mem_since hserves hrun₂)
  · rcases List.mem_cons.mp hafter with heq | hafter
    · exact hne (congrArg Event.caller heq).symm
    · exact no_second_load hrun₁ hserves hrun₂ (hi.deletes hserves hrun₂) hcoll hu (Ne.symm hne) hafter

end claim

/-! ### Two runs -/

/-- Program 1 exchanges the code, and program 2 presents it again. -/
def codeReplayed : List ℕ := List.replicate 3 0 ++ (List.replicate 8 1 ++ [2])

theorem oauth_code_once_sample :
    Exchanges sampleOAuthLibs (oauthPool codeReplayed) 1 "n1" ∧
    ∀ j, Exchanges sampleOAuthLibs (oauthPool codeReplayed) j "n1" → 1 = j := by
  have hrun : (oauthPool codeReplayed).value 1 =
        some (.tokens "mtoa_g7.n8" "mtor_g7.n9" defaultScope) ∧
      ((drawnNonces (oauthPool codeReplayed).trace.events).map sampleOAuthLibs.sha256Hex).Nodup ∧
      ((oauthPool codeReplayed).trace.events.map Event.caller).Pairwise (· ≤ ·) := by decide +kernel
  obtain ⟨hvalue, hnodup, hserial⟩ := hrun
  have hplays : (oauthPool codeReplayed).Plays 1 (token sampleOAuthLibs none [0]) :=
    oauthPool_plays codeReplayed 1 (.token none [0]) rfl
  have hexchanges : Exchanges sampleOAuthLibs (oauthPool codeReplayed) 1 "n1" :=
    ⟨⟨none, _, hplays, by decide +kernel, by decide +kernel⟩, _, _, _, Pool.value_some hvalue⟩
  exact ⟨hexchanges, fun j hj => oauth_code_once (oauthPool_reachable codeReplayed)
    (noCollision_of_nodup hnodup) (.of_serial hserial) "n1" 1 j hexchanges hj⟩

/-- Programs 1 and 2 both load the row before either of them deletes it. -/
def codeLoadedTwice : List ℕ := List.replicate 3 0 ++ ([1, 2] ++ List.replicate 7 1 ++ List.replicate 7 2)

/-- Both are given tokens, of two grants. -/
theorem oauth_code_race :
    Exchanges sampleOAuthLibs (oauthPool codeLoadedTwice) 1 "n1" ∧
    Exchanges sampleOAuthLibs (oauthPool codeLoadedTwice) 2 "n1" ∧
    ((oauthDb (oauthPool codeLoadedTwice).trace).now.grants.lookup "g8").isSome ∧
    ((oauthDb (oauthPool codeLoadedTwice).trace).now.grants.lookup "g15").isSome := by
  have hrun : (oauthPool codeLoadedTwice).value 1 =
        some (.tokens "mtoa_g8.n9" "mtor_g8.n10" defaultScope) ∧
      (oauthPool codeLoadedTwice).value 2 =
        some (.tokens "mtoa_g15.n16" "mtor_g15.n17" defaultScope) ∧
      ((oauthDb (oauthPool codeLoadedTwice).trace).now.grants.lookup "g8").isSome ∧
      ((oauthDb (oauthPool codeLoadedTwice).trace).now.grants.lookup "g15").isSome := by decide +kernel
  obtain ⟨hone, htwo, hgrants⟩ := hrun
  have hplays : ∀ i, i = 1 ∨ i = 2 →
      (oauthPool codeLoadedTwice).Plays i (token sampleOAuthLibs none [0]) := by
    rintro i (rfl | rfl)
    · exact oauthPool_plays codeLoadedTwice 1 (.token none [0]) rfl
    · exact oauthPool_plays codeLoadedTwice 2 (.token none [0]) rfl
  have hform : bodyParams sampleOAuthLibs [0] "grant_type" = some "authorization_code" ∧
      bodyParams sampleOAuthLibs [0] "code" = some "n1" := by decide +kernel
  exact ⟨⟨⟨none, _, hplays 1 (.inl rfl), hform⟩, _, _, _, Pool.value_some hone⟩,
    ⟨⟨none, _, hplays 2 (.inr rfl), hform⟩, _, _, _, Pool.value_some htwo⟩, hgrants⟩

end Microticket

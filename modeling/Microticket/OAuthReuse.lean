import Microticket.OAuthRotation

/-! # Reuse of refresh tokens

A refresh token that is presented twice was stolen, so `token_refresh` deletes the grant: it does so
when the token is not the current one of the grant.  When two requests both read the grant before
either of them rotates it, the second loses the compare-and-swap, and it is only turned down: the
grant and the tokens that the first was given stay (`oauth_reuse_race`).  As long as no request loses
the compare-and-swap on a grant that is there (`Unraced`), a token that two requests presented is
revoked with its grant (`oauth_reuse_revokes`). -/

namespace Microticket

open Interleaving Tables

variable {readOnly consistent : Bool} {libs : OAuthLibs}
variable {c₀ c₁ c₂ c : Pool (oauthService readOnly consistent) OAuthFailure OAuthReply}
variable {id full presented : String} {grant : OAuthGrant} {i j : ℕ}

/-! ### Versions with one token -/

/-- All versions of the grant with one refresh token expire together. -/
def OneExpiry (t : Trace (oauthService readOnly consistent)) (id : String) : Prop :=
  ∀ d d' grant grant', (oauthDb t).Committed d → (oauthDb t).Committed d' →
    d.grants.lookup id = some grant → d'.grants.lookup id = some grant' →
    grant.refreshTokenHash = grant'.refreshTokenHash → grant.refreshExpiresAt = grant'.refreshExpiresAt

theorem OneExpiry.serve {t : Trace (oauthService readOnly consistent)} {e : OAuthEnv} {op : OAuthOp}
    (hinv : OAuthInvariant libs t) (hop : op.ordered libs i (ownEvents i t.events))
    (hcoll : NoCollision libs t.events (refreshToken id)) (h : OneExpiry t id) :
    OneExpiry (t.serve i e op) id := by
  -- a version that was there before, beside the latest one
  have hlatest : ∀ d grant grant', (oauthDb t).Committed d → d.grants.lookup id = some grant →
      (oauthDb (t.serve i e op)).now.grants.lookup id = some grant' →
      grant.refreshTokenHash = grant'.refreshTokenHash →
      grant.refreshExpiresAt = grant'.refreshExpiresAt := by
    intro d grant grant' hd hrow hrow' heq
    have hstep := hinv.grant_step (e := e) hop id
    rw [hrow'] at hstep
    generalize hnow : (oauthDb t).now.grants.lookup id = row at hstep
    cases hstep with
    | keep => exact h d _ grant grant' hd (Replica.committed_now _) hrow hnow heq
    | create hnever => exact absurd (hinv.row hd hrow).created hnever
    | rotate hop hsame hgrant hnew => exact absurd (heq ▸ (hinv.row hd hrow).stored) (hnew hcoll)
    | @touch before now => exact h d _ grant before hd (Replica.committed_now _) hrow hnow heq
  intro d d' grant grant' hd hd' hrow hrow' heq
  rcases committed_served hd with hd | rfl
  · rcases committed_served hd' with hd' | rfl
    · exact h d d' grant grant' hd hd' hrow hrow' heq
    · exact hlatest d grant grant' hd hrow hrow' heq
  · rcases committed_served hd' with hd' | rfl
    · exact (hlatest d' grant' grant hd' hrow' hrow heq.symm).symm
    · rw [hrow, Option.some.injEq] at hrow'
      rw [hrow']

theorem OAuthReachable.one_expiry (h : OAuthReachable libs c)
    (hcoll : NoCollision libs c.trace.events (refreshToken id)) : OneExpiry c.trace id := by
  refine (OAuthReachable.keeps (P := fun _ => True)
    (K := fun t => NoCollision libs t.events (refreshToken id) → OneExpiry t id) (.refl) h ?_
    (fun _ _ => trivial) ?_) hcoll
  · intro t i e op hinv _ hordered _ hone hcoll
    have hcoll' := hcoll.serve
    exact (hone hcoll').serve hinv hordered hcoll'
  · intro _ d d' grant grant' hd _ hrow
    obtain rfl := List.mem_singleton.mp hd
    cases hrow

/-! ### Requests that present a token -/

/-- Program `i` began after `c₀` and is a refresh request, with the token of the version `grant`, that
has ended without an infrastructure failure: the client and the resource are those of the grant, the
token has not expired, and the account of the grant is available. -/
structure Replays (libs : OAuthLibs)
    (c₀ c : Pool (oauthService readOnly consistent) OAuthFailure OAuthReply) (grant : OAuthGrant)
    (presented : String) (i : ℕ) : Prop where
  new : ∀ ev ∈ c₀.trace.events, ev.caller ≠ i
  request : ∃ params, Presents libs c i params presented ∧
    params "client_id" = some grant.clientId ∧
    (params "resource").all fun requested => requested == grant.resource
  timely : ∀ now, ⟨i, .clock, now⟩ ∈ c.trace.events → now < grant.refreshExpiresAt
  available : ∀ ev ∈ c.trace.events, ev.caller = i → ¬ Unavailable ev
  ended : (∃ reply, c.threads[i]? = some (.done reply)) ∨
    ∃ e, c.threads[i]? = some (.fail e) ∧ e ≠ serverError

/-- No request that is served from `c₀` to `c` rotates the grant `id` if that is there and has another
refresh hash than the request expects: none loses the compare-and-swap. -/
def Unraced (libs : OAuthLibs)
    (c₀ c : Pool (oauthService readOnly consistent) OAuthFailure OAuthReply) (id : String) : Prop :=
  ∀ c₁ c₂ i expected accessHash accessExpires refreshHash refreshExpires r,
    Run (oauthService readOnly consistent) (IsOAuthCall libs) c₀ c₁ →
    Serves (oauthService readOnly consistent) (IsOAuthCall libs) c₁ c₂ ⟨i, .updateOAuthGrant id
      (.rotate expected accessHash accessExpires refreshHash refreshExpires), r⟩ →
    Run (oauthService readOnly consistent) (IsOAuthCall libs) c₂ c →
    ∀ grant, (oauthDb c₁.trace).now.grants.lookup id = some grant → grant.refreshTokenHash = expected

/-- The request is no rotation of the grant `id`, or it was answered without an error. -/
def rotationOk (id : String) : OAuthEvent → Bool
  | ⟨_, .updateOAuthGrant id' (.rotate ..), r⟩ => id' != id || r.isOk
  | _ => true

/-- Where all rotations are answered without an error, none loses the compare-and-swap. -/
theorem unraced_of_ok (h : ∀ ev ∈ c.trace.events, rotationOk id ev) : Unraced libs c₀ c id := by
  intro c₁ c₂ i expected accessHash accessExpires refreshHash refreshExpires r _ hserves hrun grant hrow
  have hmem : ⟨i, .updateOAuthGrant id
      (.rotate expected accessHash accessExpires refreshHash refreshExpires), r⟩ ∈ c₂.trace.events := by
    rw [hserves.2]
    exact mem_last
  have hok := h _ (hrun.grows.subset hmem)
  obtain ⟨e, -, -, -, -, hres⟩ := hserves.trace
  rcases r with error | ⟨⟩
  · simp [rotationOk, Except.isOk, Except.toBool] at hok
  · obtain ⟨d, hchange, -⟩ := OAuthStore.write_ok hres.symm
    obtain ⟨grant', hrow', hchange⟩ := Option.bind_eq_some_iff.mp hchange
    obtain ⟨rotated, hshape, -⟩ := Option.map_eq_some_iff.mp hchange
    obtain rfl := Option.some.inj (hrow.symm.trans hrow')
    simp only [OAuthGrant.update] at hshape
    split at hshape
    · assumption
    · cases hshape

/-! ### The grant is gone -/

/-- A grant that a request deleted is gone. -/
theorem OAuthReachable.gone_of_delete (h : OAuthReachable libs c₀)
    (hrun : Run (oauthService readOnly consistent) (IsOAuthCall libs) c₀ c)
    (hcreated : Created c₀.trace.events id)
    (hdelete : ⟨i, .deleteOAuthGrant id, .ok ()⟩ ∈ c₀.since c) :
    (oauthDb c.trace).now.grants.lookup id = none := by
  obtain ⟨c₁, c₂, hrun₁, hserves, hrun₂⟩ := Run.split hrun hdelete
  have hrun₁₂ : Run (oauthService readOnly consistent) (IsOAuthCall libs) c₀ c₂ :=
    .tail hrun₁ hserves.1
  refine (h.trans hrun₁₂).gone hrun₂ (hcreated.mono fun _ hev => hrun₁₂.grows.subset hev) ?_
  obtain ⟨e, -, -, -, htrace, hres⟩ := hserves.trace
  obtain ⟨d, hchange, hdb⟩ := OAuthStore.write_ok hres.symm
  cases hchange
  have hdb' : oauthDb c₂.trace = (oauthDb c₁.trace).write _ := (congrArg oauthDb htrace).trans hdb
  rw [hdb', Replica.write_now]
  exact AList.lookup_erase id _

/-- A grant that a request did not find is gone. -/
theorem OAuthReachable.gone_of_read (h : OAuthReachable libs c₀)
    (hrun : Run (oauthService readOnly consistent) (IsOAuthCall libs) c₀ c)
    (hcreated : Created c₀.trace.events id)
    (hget : ⟨i, .getOAuthGrant id, .ok none⟩ ∈ c₀.since c) :
    (oauthDb c.trace).now.grants.lookup id = none := by
  obtain ⟨c₁, c₂, hrun₁, hserves, hrun₂⟩ := Run.split hrun hget
  exact (h.trans hrun₁).gone (.head hserves.1 hrun₂)
    (hcreated.mono fun _ hev => hrun₁.grows.subset hev) (grant_read hserves)

/-- A grant whose rotation was refused is gone, if the rotation did not lose the compare-and-swap. -/
theorem OAuthReachable.gone_of_refused (h : OAuthReachable libs c₀)
    (hrun : Run (oauthService readOnly consistent) (IsOAuthCall libs) c₀ c)
    (hcreated : Created c₀.trace.events id) (hunraced : Unraced libs c₀ c id)
    {expected accessHash refreshHash message : String} {accessExpires refreshExpires : ℕ}
    (hrotate : ⟨i, .updateOAuthGrant id (.rotate expected accessHash accessExpires refreshHash
      refreshExpires), .error (.notFound message)⟩ ∈ c₀.since c) :
    (oauthDb c.trace).now.grants.lookup id = none := by
  obtain ⟨c₁, c₂, hrun₁, hserves, hrun₂⟩ := Run.split hrun hrotate
  refine (h.trans hrun₁).gone (.head hserves.1 hrun₂)
    (hcreated.mono fun _ hev => hrun₁.grows.subset hev) ?_
  rcases hrow : (oauthDb c₁.trace).now.grants.lookup id with _ | grant
  · rfl
  obtain ⟨e, -, -, -, -, hres⟩ := hserves.trace
  have hmatch := hunraced _ _ _ _ _ _ _ _ _ hrun₁ hserves hrun₂ grant hrow
  have hrefused : (OAuthStore.write c₁.trace.state e readOnly (.updateOAuthGrant id (.rotate expected
      accessHash accessExpires refreshHash refreshExpires)) (.notFound s!"OAuthGrant {id}")).1 =
      .error (.notFound message) := hres.symm
  have hchange := OAuthStore.write_refused (fun h => by cases h) (fun h => by cases h) hrefused
  have hshape : grant.update (.rotate expected accessHash accessExpires refreshHash refreshExpires) =
      some { grant with
        accessTokenHash := accessHash
        accessExpiresAt := accessExpires
        refreshTokenHash := refreshHash
        refreshExpiresAt := refreshExpires } := if_pos hmatch
  have hcommit : ((oauthDb c₁.trace).now.change e.now (.updateOAuthGrant id (.rotate expected accessHash
      accessExpires refreshHash refreshExpires))).isSome := by
    simp only [OAuthDb.change, hrow, hshape, Option.bind_some, Option.map_some, Option.isSome_some]
  exact absurd hchange (Option.isSome_iff_ne_none.mp hcommit)

/-! ### The claim -/

/-- How a request that presents an issued token has ended. -/
theorem Replays.outcome (h : Replays libs c₀ c grant presented i)
    (hparse : parseRefreshToken presented = some (id, full)) : ∃ params r,
    RefreshEnd libs i params id full r (ownEvents i c.trace.events) ∧ r ≠ .error serverError ∧
      params "client_id" = some grant.clientId ∧
      (params "resource").all fun requested => requested == grant.resource := by
  obtain ⟨params, hpresents, hclient, hresource⟩ := h.request
  rcases h.ended with ⟨reply, hdone⟩ | ⟨e, hfail, he⟩
  · exact ⟨params, _, hpresents.done hparse hdone, nofun, hclient, hresource⟩
  · exact ⟨params, _, hpresents.fail hparse hfail, fun heq => he (Except.error.inj heq), hclient,
      hresource⟩

/-- A request that presents an issued token revokes the grant, finds it revoked, or redeems it. -/
theorem Replays.gone_or_rotated (h : OAuthReachable libs c₀)
    (hrun : Run (oauthService readOnly consistent) (IsOAuthCall libs) c₀ c) {d : OAuthDb}
    (hd : (oauthDb c₀.trace).Committed d) (hrow : d.grants.lookup id = some grant)
    (hparse : parseRefreshToken presented = some (id, full))
    (hissued : hashMatches libs full grant.refreshTokenHash)
    (hcoll : NoCollision libs c.trace.events (refreshToken id)) (hunraced : Unraced libs c₀ c id)
    (hi : Replays libs c₀ c grant presented i) :
    (oauthDb c.trace).now.grants.lookup id = none ∨
      Rotated c.trace.events i id (libs.sha256Hex full) := by
  have hinv := (h.trans hrun).invariant
  have hd' : (oauthDb c.trace).Committed d :=
    h.keeps (P := fun _ => True) (K := fun t => (oauthDb t).Committed d) hrun
      (fun _ _ _ _ hd => committed_stays hd) (fun _ _ => trivial) hd
  have hcreated := (h.invariant.row hd hrow).created
  have hevent : ∀ {ev : OAuthEvent}, ev ∈ ownEvents i c.trace.events → ev ∈ c₀.since c := by
    intro ev hev
    obtain ⟨hmem, hcaller⟩ := mem_ownEvents.mp hev
    exact hrun.since_of_new hmem fun hold => hi.new ev hold hcaller
  have hkey : ∀ {seen : OAuthGrant},
      ⟨i, .getOAuthGrant id, .ok (some seen)⟩ ∈ ownEvents i c.trace.events → seen.id = id := by
    intro seen hget
    obtain ⟨v, hv, hseen⟩ := hinv.read (mem_ownEvents.mp hget).1
    exact (hinv.row hv hseen).key
  obtain ⟨params, r, hend, hfailed, hclient, hresource⟩ := hi.outcome hparse
  cases hend with
  | @redeemed _ seen _ _ _ _ hget hmatch hclock haccept hrotate =>
      rw [hkey hget] at hrotate
      rw [hash_eq_of_matches hmatch]
      exact .inr ⟨_, _, _, _, (mem_ownEvents.mp hrotate).1⟩
  | revoked hget hdelete =>
      rw [hkey hget] at hdelete
      exact .inl (h.gone_of_delete hrun hcreated (hevent hdelete))
  | unknown hget => exact .inl (h.gone_of_read hrun hcreated (hevent hget))
  | raced hget hrotate =>
      rw [hkey hget] at hrotate
      exact .inl (h.gone_of_refused hrun hcreated hunraced (hevent hrotate))
  | @refused _ seen now _ hget hmatch hclock hrefuse =>
      -- the version that was read has the token, so it expires when the issued one does
      obtain ⟨v, hv, hseen⟩ := hinv.read (mem_ownEvents.mp hget).1
      have hsame := hinv.same hd' hv hrow hseen
      have hexpiry : grant.refreshExpiresAt = seen.refreshExpiresAt :=
        (h.trans hrun).one_expiry hcoll d v grant seen hd' hv hrow hseen
          ((hash_eq_of_matches hissued).symm.trans (hash_eq_of_matches hmatch))
      have hnow : now < seen.refreshExpiresAt := by
        rw [← hexpiry]
        exact hi.timely now (mem_ownEvents.mp hclock).1
      refine absurd ⟨⟨hnow, Nat.lt_of_lt_of_le hnow (hinv.row hv hseen).refresh⟩, ?_, ?_⟩ hrefuse
      · rw [hclient, hsame.clientId]
      · rw [hsame.resource]
        exact hresource
  | unavailable hev hunavailable =>
      obtain ⟨hmem, hcaller⟩ := mem_ownEvents.mp hev
      exact absurd hunavailable (hi.available _ hmem hcaller)
  | incomplete hnone =>
      rw [hclient] at hnone
      cases hnone
  | failed => exact absurd rfl hfailed

/-- In every run in which no refresh loses the compare-and-swap on the grant, a token that two requests
have presented is revoked: the grant is gone, and no token of it is accepted any more. -/
theorem oauth_reuse_revokes (h : OAuthReachable libs c₀)
    (hrun : Run (oauthService readOnly consistent) (IsOAuthCall libs) c₀ c) {d : OAuthDb}
    (hd : (oauthDb c₀.trace).Committed d) (hrow : d.grants.lookup id = some grant)
    (hparse : parseRefreshToken presented = some (id, full))
    (hissued : hashMatches libs full grant.refreshTokenHash)
    (hcoll : NoCollision libs c.trace.events (refreshToken id)) (hunraced : Unraced libs c₀ c id)
    (hne : i ≠ j) (hi : Replays libs c₀ c grant presented i)
    (hj : Replays libs c₀ c grant presented j) :
    (oauthDb c.trace).now.grants.lookup id = none ∧ Dead libs c id := by
  have hcreated : Created c.trace.events id :=
    (h.invariant.row hd hrow).created.mono fun _ hev => hrun.grows.subset hev
  have hgone : (oauthDb c.trace).now.grants.lookup id = none := by
    rcases hi.gone_or_rotated h hrun hd hrow hparse hissued hcoll hunraced with hgone | hrotated
    · exact hgone
    rcases hj.gone_or_rotated h hrun hd hrow hparse hissued hcoll hunraced with hgone | hrotated'
    · exact hgone
    exact absurd (((h.trans hrun).spent hcoll).once hrotated hrotated') hne
  exact ⟨hgone, dead_of_gone (h.trans hrun) hcreated hgone⟩

/-! ### Two runs -/

/-- The code is exchanged: program 1 has the tokens of the grant `g7`. -/
def tokensGiven : List ℕ := List.replicate 3 0 ++ List.replicate 8 1

/-- The grant as it is created there. -/
def sampleGrant : OAuthGrant :=
  mintedGrant sampleOAuthLibs samplePayload "https://api.a.io/mcp" defaultScope "g7" "mtoa_g7.n8"
    "mtor_g7.n9" 1006

/-- The time that was read is before `expiry`, and the account that was read is available. -/
def fineEvent (expiry : ℕ) : OAuthEvent → Bool
  | ⟨_, .clock, now⟩ => decide (now < expiry)
  | ⟨_, .getUser _, r⟩ => match r with
      | .ok (some user) => user.enabled
      | _ => false
  | ⟨_, .listMembershipsByUser _, r⟩ => r.isOk
  | _ => true

theorem fineEvent.available {expiry : ℕ} {ev : OAuthEvent} (h : fineEvent expiry ev) :
    ¬ Unavailable ev := by
  intro hunavailable
  obtain ⟨i, op, r⟩ := ev
  cases op with
  | getUser id =>
      rcases r with e | _ | user
      · cases h
      · cases h
      · change user.enabled = true at h
        rw [hunavailable user rfl] at h
        cases h
  | listMembershipsByUser userId =>
      obtain ⟨message, rfl⟩ := hunavailable
      cases h
  | _ => cases hunavailable

/-- Programs 3 and 4 of the sample runs present the token of program 1. -/
theorem oauthPool_replays {order : List ℕ} {i : ℕ} (hi : i = 3 ∨ i = 4)
    (hcallers : ∀ ev ∈ (oauthPool tokensGiven).trace.events, ev.caller < 3)
    (hfine : ∀ ev ∈ (oauthPool order).trace.events, fineEvent sampleGrant.refreshExpiresAt ev)
    (hended : (∃ reply, (oauthPool order).value i = some reply) ∨
      ∃ e, (oauthPool order).failure i = some e ∧ e ≠ serverError) :
    Replays sampleOAuthLibs (oauthPool tokensGiven) (oauthPool order) sampleGrant "mtor_g7.n9" i where
  new := by
    intro ev hev
    have := hcallers ev hev
    omega
  request := by
    have hplays : (oauthPool order).Plays i (token sampleOAuthLibs none [1]) := by
      rcases hi with rfl | rfl
      · exact oauthPool_plays order 3 (.token none [1]) rfl
      · exact oauthPool_plays order 4 (.token none [1]) rfl
    exact ⟨_, ⟨⟨none, _, hplays, rfl⟩, by decide +kernel, by decide +kernel⟩, by decide +kernel,
      by decide +kernel⟩
  timely now hclock := of_decide_eq_true (hfine _ hclock)
  available ev hev _ := fineEvent.available (hfine ev hev)
  ended := by
    rcases hended with ⟨reply, hvalue⟩ | ⟨e, hfailure, he⟩
    · exact .inl ⟨reply, Pool.value_some hvalue⟩
    · exact .inr ⟨e, Pool.failure_some hfailure, he⟩

/-- Program 3 redeems the token and program 4 presents it again. -/
def replayedLater : List ℕ := tokensGiven ++ (List.replicate 8 3 ++ List.replicate 2 4)

theorem oauth_reuse_revokes_sample :
    (oauthDb (oauthPool replayedLater).trace).now.grants.lookup "g7" = none ∧
    Dead sampleOAuthLibs (oauthPool replayedLater) "g7" := by
  have hruns : (∀ ev ∈ (oauthPool tokensGiven).trace.events, ev.caller < 3) ∧
      (oauthDb (oauthPool tokensGiven).trace).now.grants.lookup "g7" = some sampleGrant ∧
      (∀ ev ∈ (oauthPool replayedLater).trace.events,
        fineEvent sampleGrant.refreshExpiresAt ev ∧ rotationOk "g7" ev) ∧
      (oauthPool replayedLater).value 3 =
        some (.tokens "mtoa_g7.n16" "mtor_g7.n17" defaultScope) ∧
      (oauthPool replayedLater).failure 4 =
        some (invalidGrant "Refresh token has already been used") ∧
      ((drawnNonces (oauthPool replayedLater).trace.events).map fun nonce =>
        sampleOAuthLibs.sha256Hex (refreshToken "g7" nonce)).Nodup := by
    rw [replayedLater, oauthPool_append]
    decide +kernel
  obtain ⟨hcallers, hrow, hevents, hvalue, hfailure, hnodup⟩ := hruns
  have hparse : parseRefreshToken "mtor_g7.n9" = some ("g7", "mtor_g7.n9") := by decide +kernel
  have hissued : hashMatches sampleOAuthLibs "mtor_g7.n9" sampleGrant.refreshTokenHash := by
    decide +kernel
  have hthree := oauthPool_replays (.inl rfl) hcallers (fun ev hev => (hevents ev hev).1)
    (.inl ⟨_, hvalue⟩)
  have hfour := oauthPool_replays (.inr rfl) hcallers (fun ev hev => (hevents ev hev).1)
    (.inr ⟨_, hfailure, by decide⟩)
  exact oauth_reuse_revokes (oauthPool_reachable tokensGiven) (oauthPool_run tokensGiven _)
    (Replica.committed_now _) hrow hparse hissued (noCollision_of_nodup hnodup)
    (unraced_of_ok fun ev hev => (hevents ev hev).2) (by decide) hthree hfour

/-- Programs 3 and 4 both read the grant before either of them rotates it. -/
def replayedAtOnce : List ℕ := tokensGiven ++ ([3, 4] ++ List.replicate 7 3 ++ List.replicate 7 4)

/-- Both requests have ended, and the tokens that the first was given verify. -/
theorem oauth_reuse_race :
    Replays sampleOAuthLibs (oauthPool tokensGiven) (oauthPool replayedAtOnce) sampleGrant
      "mtor_g7.n9" 3 ∧
    Replays sampleOAuthLibs (oauthPool tokensGiven) (oauthPool replayedAtOnce) sampleGrant
      "mtor_g7.n9" 4 ∧
    (oauthPool replayedAtOnce).value 3 =
      some (.tokens "mtoa_g7.n17" "mtor_g7.n18" defaultScope) ∧
    (oauthDb (oauthPool replayedAtOnce).trace).now.accessVerifies sampleOAuthLibs "g7" 1100
      "mtoa_g7.n17" ∧
    (oauthDb (oauthPool replayedAtOnce).trace).now.refreshVerifies sampleOAuthLibs "g7" 1100
      "mtor_g7.n18" := by
  have hruns : (∀ ev ∈ (oauthPool tokensGiven).trace.events, ev.caller < 3) ∧
      (∀ ev ∈ (oauthPool replayedAtOnce).trace.events, fineEvent
        sampleGrant.refreshExpiresAt ev) ∧
      (oauthPool replayedAtOnce).value 3 =
        some (.tokens "mtoa_g7.n17" "mtor_g7.n18" defaultScope) ∧
      (oauthPool replayedAtOnce).failure 4 =
        some (invalidGrant "Refresh token has already been used") ∧
      (oauthDb (oauthPool replayedAtOnce).trace).now.accessVerifies sampleOAuthLibs "g7" 1100
        "mtoa_g7.n17" ∧
      (oauthDb (oauthPool replayedAtOnce).trace).now.refreshVerifies sampleOAuthLibs "g7" 1100
        "mtor_g7.n18" := by
    rw [replayedAtOnce, oauthPool_append]
    decide +kernel
  obtain ⟨hcallers, hevents, hvalue, hfailure, haccess, hrefresh⟩ := hruns
  exact ⟨oauthPool_replays (.inl rfl) hcallers hevents (.inl ⟨_, hvalue⟩),
    oauthPool_replays (.inr rfl) hcallers hevents (.inr ⟨_, hfailure, by decide⟩), hvalue, haccess,
    hrefresh⟩

end Microticket

import Microticket.OAuthInvariant

/-! # Rotation of refresh tokens

A grant has one access and one refresh token at a time; a refresh replaces both, by a compare-and-swap
on the hash of the refresh token.  `oauth_rotation` says what this gives along every run: a refresh
token is redeemed once, one token of each kind verifies, no token is accepted once the grant has
expired, and none once it is deleted. -/

namespace Microticket

open Interleaving Tables RustText

/-! ### Tokens that verify -/

/-- The access token of the grant `id` verifies at the time `now`, by the rows of `d`. -/
def OAuthDb.accessVerifies (libs : OAuthLibs) (d : OAuthDb) (id : String) (now : ℕ)
    (token : String) : Bool :=
  decide (parseAccessToken token = some (id, token)) && (d.grants.lookup id).any fun grant =>
    hashMatches libs token grant.accessTokenHash && decide (now < grant.accessExpiresAt) &&
      decide (now < grant.expiresAt)

/-- The refresh token of the grant `id` verifies. -/
def OAuthDb.refreshVerifies (libs : OAuthLibs) (d : OAuthDb) (id : String) (now : ℕ)
    (token : String) : Bool :=
  decide (parseRefreshToken token = some (id, token)) && (d.grants.lookup id).any fun grant =>
    hashMatches libs token grant.refreshTokenHash && decide (now < grant.refreshExpiresAt) &&
      decide (now < grant.expiresAt)

/-- The token was made of a nonce that was drawn. -/
def Issued (evs : List OAuthEvent) (secret : String → String) (token : String) : Prop :=
  ∃ i nonce, Drew i evs nonce ∧ token = secret nonce

section verifies
variable {libs : OAuthLibs} {d : OAuthDb} {id token token' : String} {now : ℕ}
variable {evs : List OAuthEvent}

/-- Two tokens with one hash. -/
theorem hash_eq_of_matches {stored : String} (h : hashMatches libs token stored) :
    libs.sha256Hex token = stored := asBytes_inj (eq_of_constantTimeEq h)

theorem parseToken_full {tokenPrefix full : String}
    (h : parseToken tokenPrefix token = some (id, full)) : full = token := by
  unfold parseToken at h
  obtain ⟨rest, -, h⟩ := Option.bind_eq_some_iff.mp h
  obtain ⟨⟨grantId, secret⟩, -, h⟩ := Option.bind_eq_some_iff.mp h
  simp only at h
  split at h
  · cases h
  · cases h
    rfl

theorem accessVerifies_grant (h : d.accessVerifies libs id now token) :
    ∃ grant, d.grants.lookup id = some grant ∧ libs.sha256Hex token = grant.accessTokenHash ∧
      now < grant.expiresAt := by
  obtain ⟨-, h⟩ := Bool.and_eq_true_iff.mp h
  obtain ⟨grant, hrow, h⟩ := (Option.any_eq_true _ _).mp h
  obtain ⟨h, hexpires⟩ := Bool.and_eq_true_iff.mp h
  obtain ⟨hmatch, -⟩ := Bool.and_eq_true_iff.mp h
  exact ⟨grant, hrow, hash_eq_of_matches hmatch, of_decide_eq_true hexpires⟩

theorem refreshVerifies_grant (h : d.refreshVerifies libs id now token) :
    ∃ grant, d.grants.lookup id = some grant ∧ libs.sha256Hex token = grant.refreshTokenHash ∧
      now < grant.expiresAt := by
  obtain ⟨-, h⟩ := Bool.and_eq_true_iff.mp h
  obtain ⟨grant, hrow, h⟩ := (Option.any_eq_true _ _).mp h
  obtain ⟨h, hexpires⟩ := Bool.and_eq_true_iff.mp h
  obtain ⟨hmatch, -⟩ := Bool.and_eq_true_iff.mp h
  exact ⟨grant, hrow, hash_eq_of_matches hmatch, of_decide_eq_true hexpires⟩

/-- Tokens of one hash that were issued are equal. -/
theorem Issued.eq {secret : String → String} (hcoll : NoCollision libs evs secret)
    (h : Issued evs secret token) (h' : Issued evs secret token')
    (heq : libs.sha256Hex token = libs.sha256Hex token') : token = token' := by
  obtain ⟨i, nonce, hdrew, rfl⟩ := h
  obtain ⟨j, nonce', hdrew', rfl⟩ := h'
  rw [hcoll i j nonce nonce' hdrew hdrew' heq]

theorem accessVerifies_unique (hcoll : NoCollision libs evs (accessToken id))
    (h : Issued evs (accessToken id) token) (h' : Issued evs (accessToken id) token')
    (hv : d.accessVerifies libs id now token) (hv' : d.accessVerifies libs id now token') :
    token = token' := by
  obtain ⟨grant, hrow, hhash, -⟩ := accessVerifies_grant hv
  obtain ⟨grant', hrow', hhash', -⟩ := accessVerifies_grant hv'
  rw [hrow, Option.some.injEq] at hrow'
  subst hrow'
  exact h.eq hcoll h' (hhash.trans hhash'.symm)

theorem refreshVerifies_unique (hcoll : NoCollision libs evs (refreshToken id))
    (h : Issued evs (refreshToken id) token) (h' : Issued evs (refreshToken id) token')
    (hv : d.refreshVerifies libs id now token) (hv' : d.refreshVerifies libs id now token') :
    token = token' := by
  obtain ⟨grant, hrow, hhash, -⟩ := refreshVerifies_grant hv
  obtain ⟨grant', hrow', hhash', -⟩ := refreshVerifies_grant hv'
  rw [hrow, Option.some.injEq] at hrow'
  subst hrow'
  exact h.eq hcoll h' (hhash.trans hhash'.symm)

theorem not_verifies_of_gone (h : d.grants.lookup id = none) :
    d.accessVerifies libs id now token = false ∧ d.refreshVerifies libs id now token = false := by
  unfold OAuthDb.accessVerifies OAuthDb.refreshVerifies
  rw [h]
  exact ⟨Bool.and_false _, Bool.and_false _⟩

theorem not_verifies_of_expired {grant : OAuthGrant} (h : d.grants.lookup id = some grant)
    (hnow : grant.expiresAt ≤ now) :
    d.accessVerifies libs id now token = false ∧ d.refreshVerifies libs id now token = false := by
  refine ⟨eq_false_of_ne_true fun hv => ?_, eq_false_of_ne_true fun hv => ?_⟩
  · obtain ⟨grant', hrow, -, hlive⟩ := accessVerifies_grant hv
    rw [h, Option.some.injEq] at hrow
    subst hrow
    omega
  · obtain ⟨grant', hrow, -, hlive⟩ := refreshVerifies_grant hv
    rw [h, Option.some.injEq] at hrow
    subst hrow
    omega

end verifies

/-! ### Calls that accept a token -/

section calls
variable {readOnly consistent : Bool} (libs : OAuthLibs)
variable (c : Pool (oauthService readOnly consistent) OAuthFailure OAuthReply) (i : ℕ)

/-- Program `i` is a refresh request with the parameters `params` that presents the token. -/
def Presents (params : Params) (presented : String) : Prop :=
  (∃ host body, c.Plays i (token libs host body) ∧ bodyParams libs body = params) ∧
  params "grant_type" = some "refresh_token" ∧ params "refresh_token" = some presented

/-- Program `i` is a refresh request that was given new tokens for the token it presented. -/
def Redeems (presented : String) : Prop :=
  (∃ params, Presents libs c i params presented) ∧
  ∃ access refresh scope, c.threads[i]? = some (.done (.tokens access refresh scope))

/-- Program `i` verified the access token. -/
def VerifiedBy (presented : String) : Prop :=
  (∃ expectedResource, c.Plays i (verifyAccessToken libs presented expectedResource)) ∧
  ∃ reply, c.threads[i]? = some (.done reply)

/-- Program `i` accepted a token of the grant `id`. -/
def Accepts (id : String) : Prop :=
  (∃ presented full, parseAccessToken presented = some (id, full) ∧ VerifiedBy libs c i presented) ∨
  ∃ presented full, parseRefreshToken presented = some (id, full) ∧ Redeems libs c i presented

end calls

section accepted
variable {readOnly consistent : Bool} {libs : OAuthLibs} {i j : ℕ} {id presented full : String}
variable {c c' : Pool (oauthService readOnly consistent) OAuthFailure OAuthReply}

/-- A refresh request keeps the contract of `token_refresh`. -/
theorem ordered_refreshRequest {host : Option String} {body : List UInt8} {params : Params}
    (hparams : bodyParams libs body = params)
    (hgrant : params "grant_type" = some "refresh_token")
    (hpresented : params "refresh_token" = some presented)
    (hparse : parseRefreshToken presented = some (id, full)) :
    Ordered libs i (RefreshEnd libs i params id full) (token libs host body) [] := by
  unfold token
  rw [hparams, hgrant]
  exact ordered_tokenRefresh hpresented hparse

/-- How a refresh request has ended. -/
theorem Presents.done {params : Params} {reply : OAuthReply}
    (h : Presents libs c i params presented)
    (hparse : parseRefreshToken presented = some (id, full))
    (hdone : c.threads[i]? = some (.done reply)) :
    RefreshEnd libs i params id full (.ok reply) (ownEvents i c.trace.events) := by
  obtain ⟨⟨host, body, hplays, hparams⟩, hgrant, hpresented⟩ := h
  exact hplays.done hdone (ordered_refreshRequest hparams hgrant hpresented hparse)

theorem Presents.fail {params : Params} {e : OAuthFailure}
    (h : Presents libs c i params presented)
    (hparse : parseRefreshToken presented = some (id, full))
    (hfail : c.threads[i]? = some (.fail e)) :
    RefreshEnd libs i params id full (.error e) (ownEvents i c.trace.events) := by
  obtain ⟨⟨host, body, hplays, hparams⟩, hgrant, hpresented⟩ := h
  exact hplays.fail hfail (ordered_refreshRequest hparams hgrant hpresented hparse)

/-- A request that redeemed a token rotated the grant away from its hash. -/
theorem Redeems.rotated (hreach : OAuthReachable libs c) (h : Redeems libs c i presented)
    (hparse : parseRefreshToken presented = some (id, full)) :
    Rotated c.trace.events i id (libs.sha256Hex full) := by
  obtain ⟨⟨params, hpresents⟩, access, refresh, scope, hdone⟩ := h
  cases hpresents.done hparse hdone with
  | redeemed hget hmatch hclock haccept hrotate =>
      obtain ⟨d, hd, hrow⟩ := hreach.invariant.read (mem_ownEvents.mp hget).1
      rw [(hreach.invariant.row hd hrow).key] at hrotate
      rw [hash_eq_of_matches hmatch]
      exact ⟨_, _, _, _, (mem_ownEvents.mp hrotate).1⟩

/-- A call that accepts a token has read the grant, and the time before it expires. -/
theorem Accepts.reads (h : Accepts libs c i id) : ∃ grant now,
    ⟨i, .getOAuthGrant id, .ok (some grant)⟩ ∈ c.trace.events ∧ ⟨i, .clock, now⟩ ∈ c.trace.events ∧
      now < grant.expiresAt := by
  rcases h with ⟨presented, full, hparse, ⟨expectedResource, hplays⟩, reply, hdone⟩ |
    ⟨presented, full, hparse, ⟨params, hpresents⟩, access, refresh, scope, hdone⟩
  · obtain ⟨grant, now, hget, -, hclock, -, hexpires⟩ :=
      hplays.done hdone (ordered_verifyAccessToken hparse) reply rfl
    exact ⟨grant, now, (mem_ownEvents.mp hget).1, (mem_ownEvents.mp hclock).1, hexpires⟩
  · cases hpresents.done hparse hdone with
    | redeemed hget hmatch hclock haccept hrotate =>
        exact ⟨_, _, (mem_ownEvents.mp hget).1, (mem_ownEvents.mp hclock).1, haccept.1.2⟩

/-- A call that began after `c` and accepts a token finds the grant, and not yet expired at `c`. -/
theorem Accepts.later (hreach : OAuthReachable libs c)
    (hrun : Run (oauthService readOnly consistent) (IsOAuthCall libs) c c')
    (hnew : ∀ ev ∈ c.trace.events, ev.caller ≠ i) (h : Accepts libs c' i id) :
    ∃ c₁ grant, Run (oauthService readOnly consistent) (IsOAuthCall libs) c c₁ ∧
      Run (oauthService readOnly consistent) (IsOAuthCall libs) c₁ c' ∧
      (oauthDb c₁.trace).now.grants.lookup id = some grant ∧ clockOf c.trace < grant.expiresAt := by
  obtain ⟨grant, now, hget, hclock, hexpires⟩ := h.reads
  obtain ⟨c₁, c₂, hrun₁, hserves, hrun₂⟩ :=
    Run.split hrun (hrun.since_of_new hget fun hev => hnew _ hev rfl)
  refine ⟨c₁, grant, hrun₁, .head hserves.1 hrun₂, grant_read hserves, ?_⟩
  rcases (hreach.clock_mono hrun).2 hclock with hev | hle
  · exact absurd rfl (hnew _ hev)
  · exact Nat.lt_of_le_of_lt hle hexpires

end accepted

/-! ### The claim -/

section claim
variable {readOnly consistent : Bool} {libs : OAuthLibs}
variable {c : Pool (oauthService readOnly consistent) OAuthFailure OAuthReply}

/-- The expiry of a grant is fixed when it is created. -/
structure FixedExpiry (c : Pool (oauthService readOnly consistent) OAuthFailure OAuthReply)
    (id : String) : Prop where
  capped : ∀ {d grant}, (oauthDb c.trace).Committed d → d.grants.lookup id = some grant →
    grant.refreshExpiresAt ≤ grant.expiresAt ∧
      grant.expiresAt = grant.createdAt + grantAbsoluteLifetimeS
  fixed : ∀ {d d' grant grant'}, (oauthDb c.trace).Committed d → (oauthDb c.trace).Committed d' →
    d.grants.lookup id = some grant → d'.grants.lookup id = some grant' →
    grant'.createdAt = grant.createdAt ∧ grant'.expiresAt = grant.expiresAt

/-- No token of the grant `id` verifies from `c` on, and no call that begins after `c` accepts one. -/
def Dead (libs : OAuthLibs) (c : Pool (oauthService readOnly consistent) OAuthFailure OAuthReply)
    (id : String) : Prop :=
  ∀ c', Run (oauthService readOnly consistent) (IsOAuthCall libs) c c' →
    (∀ now token, clockOf c.trace ≤ now →
      (oauthDb c'.trace).now.accessVerifies libs id now token = false ∧
      (oauthDb c'.trace).now.refreshVerifies libs id now token = false) ∧
    ∀ i, (∀ ev ∈ c.trace.events, ev.caller ≠ i) → ¬ Accepts libs c' i id

theorem dead_of_gone (h : OAuthReachable libs c) {id : String} (hcreated : Created c.trace.events id)
    (hgone : (oauthDb c.trace).now.grants.lookup id = none) : Dead libs c id := by
  intro c' hrun
  refine ⟨fun now token _ => not_verifies_of_gone (h.gone hrun hcreated hgone), fun i hnew haccept => ?_⟩
  obtain ⟨c₁, grant, hrun₁, -, hrow, -⟩ := haccept.later h hrun hnew
  rw [h.gone hrun₁ hcreated hgone] at hrow
  cases hrow

/-- Every version of a grant along a run expires when it did before. -/
theorem OAuthReachable.expires_same (h : OAuthReachable libs c)
    {c' : Pool (oauthService readOnly consistent) OAuthFailure OAuthReply}
    (hrun : Run (oauthService readOnly consistent) (IsOAuthCall libs) c c') {d : OAuthDb} {id : String}
    {grant grant' : OAuthGrant} (hd : (oauthDb c.trace).Committed d)
    (hrow : d.grants.lookup id = some grant)
    (hrow' : (oauthDb c'.trace).now.grants.lookup id = some grant') :
    grant'.expiresAt = grant.expiresAt := by
  have hd' : (oauthDb c'.trace).Committed d :=
    h.keeps (P := fun _ => True) (K := fun t => (oauthDb t).Committed d) hrun
      (fun _ _ _ _ hd => committed_stays hd) (fun _ _ => trivial) hd
  exact ((h.trans hrun).invariant.same hd' (Replica.committed_now _) hrow hrow').expiresAt

theorem dead_of_expired (h : OAuthReachable libs c) {d : OAuthDb} {id : String} {grant : OAuthGrant}
    (hd : (oauthDb c.trace).Committed d) (hrow : d.grants.lookup id = some grant)
    (hexpired : grant.expiresAt ≤ clockOf c.trace) : Dead libs c id := by
  intro c' hrun
  refine ⟨fun now token hnow => ?_, fun i hnew haccept => ?_⟩
  · rcases hrow' : (oauthDb c'.trace).now.grants.lookup id with _ | grant'
    · exact not_verifies_of_gone hrow'
    · refine not_verifies_of_expired hrow' ?_
      rw [h.expires_same hrun hd hrow hrow']
      exact Nat.le_trans hexpired hnow
  · obtain ⟨c₁, grant', hrun₁, -, hrow', hlive⟩ := haccept.later h hrun hnew
    rw [h.expires_same hrun₁ hd hrow hrow'] at hlive
    exact Nat.not_lt.mpr hexpired hlive

/-- Along every run: a refresh token is redeemed once; one access token and one refresh token of a
grant verify; the expiry of a grant is fixed, and caps that of its refresh token; and no token is
accepted after the grant has expired or is deleted. -/
theorem oauth_rotation (h : OAuthReachable libs c) {id : String}
    (hrefresh : NoCollision libs c.trace.events (refreshToken id))
    (haccess : NoCollision libs c.trace.events (accessToken id)) :
    (∀ presented full i j, parseRefreshToken presented = some (id, full) →
      Redeems libs c i presented → Redeems libs c j presented → i = j) ∧
    (∀ now token token', Issued c.trace.events (accessToken id) token →
      Issued c.trace.events (accessToken id) token' →
      (oauthDb c.trace).now.accessVerifies libs id now token →
      (oauthDb c.trace).now.accessVerifies libs id now token' → token = token') ∧
    (∀ now token token', Issued c.trace.events (refreshToken id) token →
      Issued c.trace.events (refreshToken id) token' →
      (oauthDb c.trace).now.refreshVerifies libs id now token →
      (oauthDb c.trace).now.refreshVerifies libs id now token' → token = token') ∧
    FixedExpiry c id ∧
    (∀ d grant, (oauthDb c.trace).Committed d → d.grants.lookup id = some grant →
      grant.expiresAt ≤ clockOf c.trace → Dead libs c id) ∧
    (∀ d grant, (oauthDb c.trace).Committed d → d.grants.lookup id = some grant →
      (oauthDb c.trace).now.grants.lookup id = none → Dead libs c id) := by
  have hinv := h.invariant
  refine ⟨fun presented full i j hparse hi hj => ?_, fun now token token' ht ht' => ?_,
    fun now token token' ht ht' => ?_, ⟨fun hd hrow => ?_, fun hd hd' hrow hrow' => ?_⟩,
    fun d grant hd hrow => dead_of_expired h hd hrow, fun d grant hd hrow hgone => ?_⟩
  · exact (h.spent hrefresh).once (hi.rotated h hparse) (hj.rotated h hparse)
  · exact accessVerifies_unique haccess ht ht'
  · exact refreshVerifies_unique hrefresh ht ht'
  · exact ⟨(hinv.row hd hrow).refresh, (hinv.row hd hrow).expires⟩
  · have hsame := hinv.same hd hd' hrow hrow'
    exact ⟨hsame.createdAt, hsame.expiresAt⟩
  · exact dead_of_gone h (hinv.row hd hrow).created hgone

end claim

/-- The code is exchanged and the refresh token it gave is redeemed. -/
def refreshedOnce : List ℕ := List.replicate 3 0 ++ List.replicate 8 1 ++ List.replicate 8 3

/-- In the sample run program 3 redeems the token, and no other program does. -/
theorem oauth_rotation_sample :
    Redeems sampleOAuthLibs (oauthPool refreshedOnce) 3 "mtor_g7.n9" ∧
    ∀ j, Redeems sampleOAuthLibs (oauthPool refreshedOnce) j "mtor_g7.n9" → 3 = j := by
  have hplays : (oauthPool refreshedOnce).Plays 3 (token sampleOAuthLibs none [1]) :=
    oauthPool_plays refreshedOnce 3 (.token none [1]) rfl
  have hrun : (oauthPool refreshedOnce).value 3 =
        some (.tokens "mtoa_g7.n16" "mtor_g7.n17" defaultScope) ∧
      ((drawnNonces (oauthPool refreshedOnce).trace.events).map fun nonce =>
        sampleOAuthLibs.sha256Hex (refreshToken "g7" nonce)).Nodup ∧
      ((drawnNonces (oauthPool refreshedOnce).trace.events).map fun nonce =>
        sampleOAuthLibs.sha256Hex (accessToken "g7" nonce)).Nodup := by decide +kernel
  have hredeems : Redeems sampleOAuthLibs (oauthPool refreshedOnce) 3 "mtor_g7.n9" :=
    ⟨⟨_, ⟨none, _, hplays, rfl⟩, by decide +kernel, by decide +kernel⟩, _, _, _,
      Pool.value_some hrun.1⟩
  have hparse : parseRefreshToken "mtor_g7.n9" = some ("g7", "mtor_g7.n9") := by decide +kernel
  exact ⟨hredeems, fun j hj => (oauth_rotation (oauthPool_reachable refreshedOnce)
    (noCollision_of_nodup hrun.2.1) (noCollision_of_nodup hrun.2.2)).1 _ _ 3 j hparse hredeems hj⟩

end Microticket

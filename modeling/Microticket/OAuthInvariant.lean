import Microticket.OAuthContract

/-! # What holds of all reachable OAuth tables

`GrantStep` says what one request of a call does to the row of one grant; the invariant
`OAuthInvariant` and every later result split on it.

* A grant is created once, with `expires_at` 90 days after `created_at`, and these two never change;
  `refresh_expires_at` stays at or below `expires_at` (`GrantOf`).
* A refresh hash that a rotation has replaced is never stored again, as long as no two nonces that
  were drawn give tokens of the grant with one hash (`NoCollision`, `OAuthInvariant.spent`).
* A grant that was deleted is never created again (`OAuthReachable.gone`). -/

namespace Microticket

open Interleaving Tables RustText

section traces
variable {readOnly consistent : Bool}

/-- The tables of a trace. -/
def oauthDb (t : Trace (oauthService readOnly consistent)) : Replica OAuthDb := OAuthStore.db t.state

/-- The time of a trace. -/
def clockOf (t : Trace (oauthService readOnly consistent)) : ℕ := OAuthStore.clock t.state

/-- The nonces and the identifiers that were drawn along a trace. -/
def noncesOf (t : Trace (oauthService readOnly consistent)) : List String :=
  OAuthStore.nonces t.state

def idsOf (t : Trace (oauthService readOnly consistent)) : List String := OAuthStore.ids t.state

end traces

/-! ### What was drawn and stored -/

/-- A program that stored tokens drew the identifier. -/
def Created (evs : List OAuthEvent) (id : String) : Prop :=
  ∃ j, ⟨j, .newId, id⟩ ∈ evs ∧ ∃ ev ∈ evs, ev.caller = j ∧ ev.op.storesTokens

/-- A program that stored tokens drew the nonce of the refresh token with this hash. -/
def StoredHash (libs : OAuthLibs) (evs : List OAuthEvent) (id hash : String) : Prop :=
  ∃ j nonce, Drew j evs nonce ∧ hash = libs.sha256Hex (refreshToken id nonce) ∧
    ∃ ev ∈ evs, ev.caller = j ∧ ev.op.storesTokens

/-- Two nonces that were drawn do not give the same hash. -/
def NoCollision (libs : OAuthLibs) (evs : List OAuthEvent) (secret : String → String) : Prop :=
  ∀ i j nonce nonce', Drew i evs nonce → Drew j evs nonce' →
    libs.sha256Hex (secret nonce) = libs.sha256Hex (secret nonce') → nonce = nonce'

/-- The identifiers and nonces of the history are drawn once. -/
structure DrawnOnce (evs : List OAuthEvent) : Prop where
  nonce : ∀ {i j bytes bytes' nonce}, ⟨i, .generateNonce bytes, nonce⟩ ∈ evs →
    ⟨j, .generateNonce bytes', nonce⟩ ∈ evs → i = j
  id : ∀ {i j id}, ⟨i, .newId, id⟩ ∈ evs → ⟨j, .newId, id⟩ ∈ evs → i = j

/-- The parts of a grant that no update changes. -/
structure OAuthGrant.Same (grant grant' : OAuthGrant) : Prop where
  userId : grant'.userId = grant.userId
  clientId : grant'.clientId = grant.clientId
  clientName : grant'.clientName = grant.clientName
  redirectUri : grant'.redirectUri = grant.redirectUri
  resource : grant'.resource = grant.resource
  scope : grant'.scope = grant.scope
  expiresAt : grant'.expiresAt = grant.expiresAt
  createdAt : grant'.createdAt = grant.createdAt

/-- What is known of a row of the grant `id`. -/
structure GrantOf (libs : OAuthLibs) (evs : List OAuthEvent) (id : String) (grant : OAuthGrant) :
    Prop where
  key : grant.id = id
  expires : grant.expiresAt = grant.createdAt + grantAbsoluteLifetimeS
  refresh : grant.refreshExpiresAt ≤ grant.expiresAt
  created : Created evs id
  stored : StoredHash libs evs id grant.refreshTokenHash

section drawn
variable {libs : OAuthLibs} {evs evs' : List OAuthEvent} {id hash : String} {i : ℕ}
variable {grant : OAuthGrant}

theorem OAuthGrant.Same.refl (grant : OAuthGrant) : grant.Same grant :=
  ⟨rfl, rfl, rfl, rfl, rfl, rfl, rfl, rfl⟩

theorem OAuthGrant.Same.trans {g₁ g₂ g₃ : OAuthGrant} (h₁ : g₁.Same g₂) (h₂ : g₂.Same g₃) :
    g₁.Same g₃ where
  userId := h₂.userId.trans h₁.userId
  clientId := h₂.clientId.trans h₁.clientId
  clientName := h₂.clientName.trans h₁.clientName
  redirectUri := h₂.redirectUri.trans h₁.redirectUri
  resource := h₂.resource.trans h₁.resource
  scope := h₂.scope.trans h₁.scope
  expiresAt := h₂.expiresAt.trans h₁.expiresAt
  createdAt := h₂.createdAt.trans h₁.createdAt

theorem OAuthGrant.Same.symm {g₁ g₂ : OAuthGrant} (h : g₁.Same g₂) : g₂.Same g₁ where
  userId := h.userId.symm
  clientId := h.clientId.symm
  clientName := h.clientName.symm
  redirectUri := h.redirectUri.symm
  resource := h.resource.symm
  scope := h.scope.symm
  expiresAt := h.expiresAt.symm
  createdAt := h.createdAt.symm

/-- An update leaves them. -/
theorem OAuthGrant.same_update {grant' : OAuthGrant} {shape : OAuthGrantUpdateShape}
    (h : grant.update shape = some grant') : grant.Same grant' ∧ grant'.id = grant.id := by
  cases shape with
  | rotate =>
      simp only [OAuthGrant.update] at h
      split at h
      · cases h
        exact ⟨⟨rfl, rfl, rfl, rfl, rfl, rfl, rfl, rfl⟩, rfl⟩
      · cases h
  | touchLastUsed =>
      cases h
      exact ⟨⟨rfl, rfl, rfl, rfl, rfl, rfl, rfl, rfl⟩, rfl⟩

theorem Created.mono (h : Created evs id) (hsub : ∀ ev ∈ evs, ev ∈ evs') : Created evs' id := by
  obtain ⟨j, hid, ev, hev, hcaller, hstores⟩ := h
  exact ⟨j, hsub _ hid, ev, hsub _ hev, hcaller, hstores⟩

theorem StoredHash.mono (h : StoredHash libs evs id hash) (hsub : ∀ ev ∈ evs, ev ∈ evs') :
    StoredHash libs evs' id hash := by
  obtain ⟨j, nonce, hdrew, heq, ev, hev, hcaller, hstores⟩ := h
  exact ⟨j, nonce, hsub _ hdrew, heq, ev, hsub _ hev, hcaller, hstores⟩

theorem GrantOf.mono (h : GrantOf libs evs id grant) (hsub : ∀ ev ∈ evs, ev ∈ evs') :
    GrantOf libs evs' id grant :=
  ⟨h.key, h.expires, h.refresh, h.created.mono hsub, h.stored.mono hsub⟩

theorem NoCollision.mono {secret : String → String} (h : NoCollision libs evs' secret)
    (hsub : ∀ ev ∈ evs, ev ∈ evs') : NoCollision libs evs secret :=
  fun i j nonce nonce' hi hj => h i j nonce nonce' (hsub _ hi) (hsub _ hj)

/-- A program that has stored no tokens drew no identifier of a grant. -/
theorem DrawnOnce.not_created (h : DrawnOnce evs) (hid : ⟨i, .newId, id⟩ ∈ evs)
    (hunsent : Unsent OAuthOp.storesTokens (ownEvents i evs)) : ¬ Created evs id := by
  rintro ⟨j, hid', ev, hev, hcaller, hstores⟩
  have hi := h.id hid hid'
  rw [hunsent ev (mem_ownEvents.mpr ⟨hev, hcaller.trans hi.symm⟩)] at hstores
  cases hstores

/-- The hash of a nonce of a program that has stored no tokens is new. -/
theorem DrawnOnce.not_stored (h : DrawnOnce evs) {nonce : String} (hdrew : Drew i evs nonce)
    (hunsent : Unsent OAuthOp.storesTokens (ownEvents i evs))
    (hcoll : NoCollision libs evs (refreshToken id)) :
    ¬ StoredHash libs evs id (libs.sha256Hex (refreshToken id nonce)) := by
  rintro ⟨j, nonce', hdrew', heq, ev, hev, hcaller, hstores⟩
  obtain rfl := hcoll i j nonce nonce' hdrew hdrew' heq
  have hi := h.nonce hdrew hdrew'
  rw [hunsent ev (mem_ownEvents.mpr ⟨hev, hcaller.trans hi.symm⟩)] at hstores
  cases hstores

end drawn

/-! ### One step -/

/-- What a request does to the row of the grant `id`, given the history `evs` and the history `evs'`
that it leads to. -/
inductive GrantStep (libs : OAuthLibs) (evs evs' : List OAuthEvent) (op : OAuthOp) (id : String) :
    Option OAuthGrant → Option OAuthGrant → Prop
  | keep (row : Option OAuthGrant) : GrantStep libs evs evs' op id row row
  | create {grant : OAuthGrant} (hnever : ¬ Created evs id) (hgrant : GrantOf libs evs' id grant) :
      GrantStep libs evs evs' op id none (some grant)
  | rotate {grant grant' : OAuthGrant} {accessHash refreshHash : String}
      {accessExpires refreshExpires : ℕ}
      (hop : op = .updateOAuthGrant id
        (.rotate grant.refreshTokenHash accessHash accessExpires refreshHash refreshExpires))
      (hsame : grant.Same grant') (hgrant : GrantOf libs evs' id grant')
      (hnew : NoCollision libs evs (refreshToken id) → ¬ StoredHash libs evs id grant'.refreshTokenHash) :
      GrantStep libs evs evs' op id (some grant) (some grant')
  | touch {grant : OAuthGrant} {now : ℕ} :
      GrantStep libs evs evs' op id (some grant) (some { grant with lastUsedAt := some now })
  | delete {grant : OAuthGrant} : GrantStep libs evs evs' op id (some grant) none

/-- How a write changes the table of grants. -/
inductive GrantsMove (d : OAuthDb) (op : OAuthOp) (d' : OAuthDb) : Prop
  | same (heq : d'.grants = d.grants)
  | create {grant : OAuthGrant} (hop : op = .createOAuthGrant grant)
      (hnew : d.grants.lookup grant.id = none)
      (heq : d'.grants = d.grants.insert grant.id grant)
  | update {id : String} {shape : OAuthGrantUpdateShape} {grant grant' : OAuthGrant}
      (hop : op = .updateOAuthGrant id shape) (hrow : d.grants.lookup id = some grant)
      (hshape : grant.update shape = some grant') (heq : d'.grants = d.grants.insert id grant')
  | delete {id : String} (heq : d'.grants = d.grants.erase id)

/-- How a write changes the table of ephemeral rows. -/
inductive StatesMove (d : OAuthDb) (op : OAuthOp) (d' : OAuthDb) : Prop
  | same (heq : d'.states = d.states)
  | put {id kind payload : String} {expiresAt : ℕ}
      (hop : op = .putEphemeralState id kind payload expiresAt)
      (heq : d'.states = d.states.insert id ⟨id, kind, payload, expiresAt⟩)
  | delete {id : String} (heq : d'.states = d.states.erase id)

section moves
variable {d d' : OAuthDb} {now : ℕ} {op : OAuthOp}

theorem OAuthDb.grants_move (h : d.change now op = some d') : GrantsMove d op d' := by
  cases op with
  | createOAuthGrant grant =>
      simp only [OAuthDb.change] at h
      split at h
      · rename_i hnone
        cases h
        exact .create rfl (Option.isNone_iff_eq_none.mp hnone) rfl
      · cases h
  | updateOAuthGrant id shape =>
      obtain ⟨grant, hrow, h⟩ := Option.bind_eq_some_iff.mp h
      obtain ⟨grant', hshape, rfl⟩ := Option.map_eq_some_iff.mp h
      exact .update rfl hrow hshape rfl
  | deleteOAuthGrant id =>
      cases h
      exact .delete rfl
  | putEphemeralState id kind payload expiresAt =>
      cases h
      exact .same rfl
  | deleteEphemeralState id =>
      cases h
      exact .same rfl
  | expire table id =>
      cases table with
      | grants =>
          obtain ⟨grant, -, h⟩ := Option.bind_eq_some_iff.mp h
          split at h
          · cases h
            exact .delete rfl
          · cases h
      | states =>
          obtain ⟨state, -, h⟩ := Option.bind_eq_some_iff.mp h
          split at h
          · cases h
            exact .same rfl
          · cases h
  | _ => cases h

theorem OAuthDb.states_move (h : d.change now op = some d') : StatesMove d op d' := by
  cases op with
  | createOAuthGrant grant =>
      simp only [OAuthDb.change] at h
      split at h
      · cases h
        exact .same rfl
      · cases h
  | updateOAuthGrant id shape =>
      obtain ⟨grant, -, h⟩ := Option.bind_eq_some_iff.mp h
      obtain ⟨grant', -, rfl⟩ := Option.map_eq_some_iff.mp h
      exact .same rfl
  | deleteOAuthGrant id =>
      cases h
      exact .same rfl
  | putEphemeralState id kind payload expiresAt =>
      cases h
      exact .put rfl rfl
  | deleteEphemeralState id =>
      cases h
      exact .delete rfl
  | expire table id =>
      cases table with
      | grants =>
          obtain ⟨grant, -, h⟩ := Option.bind_eq_some_iff.mp h
          split at h
          · cases h
            exact .same rfl
          · cases h
      | states =>
          obtain ⟨state, -, h⟩ := Option.bind_eq_some_iff.mp h
          split at h
          · cases h
            exact .delete rfl
          · cases h
  | _ => cases h

end moves

/-! ### The service -/

namespace OAuthStore

variable {readOnly : Bool} {s : OAuthStore} {e : OAuthEnv} {op : OAuthOp}

theorem commit_db : (s.commit e op).db = s.db ∨
    ∃ d, s.db.now.change e.now op = some d ∧ (s.commit e op).db = s.db.write d := by
  unfold commit
  split
  · exact .inl rfl
  · rename_i d hd
    exact .inr ⟨d, hd, rfl⟩

theorem write_db {refused : DbError} : (s.write e readOnly op refused).2.db = s.db ∨
    ∃ d, s.db.now.change e.now op = some d ∧
      (s.write e readOnly op refused).2.db = s.db.write d := by
  unfold write
  split
  · exact .inl rfl
  · split
    · exact .inl rfl
    · exact commit_db

/-- What a request does to the tables. -/
theorem serve_db (s : OAuthStore) (e : OAuthEnv) (readOnly : Bool) (op : OAuthOp) :
    (s.serve e readOnly op).2.db = s.db ∨ ∃ d, s.db.now.change e.now op = some d ∧
      (s.serve e readOnly op).2.db = s.db.write d := by
  cases op
  case putEphemeralState => exact write_db
  case deleteEphemeralState => exact write_db
  case createOAuthGrant => exact write_db
  case updateOAuthGrant => exact write_db
  case deleteOAuthGrant => exact write_db
  case expire => exact commit_db
  all_goals exact .inl rfl

/-- A write that was answered without an error is committed. -/
theorem write_ok {refused : DbError} (h : (s.write e readOnly op refused).1 = .ok ()) :
    ∃ d, s.db.now.change e.now op = some d ∧
      (s.write e readOnly op refused).2.db = s.db.write d := by
  unfold write at h ⊢
  split at h
  · cases h
  · rename_i hwritable
    rw [if_neg hwritable]
    split at h
    · cases h
    · rename_i hserved
      rw [if_neg hserved]
      simp only at h ⊢
      split at h
      · cases h
      · split at h
        · rename_i hsome
          obtain ⟨d, hd⟩ := Option.isSome_iff_exists.mp hsome
          refine ⟨d, hd, ?_⟩
          unfold commit
          rw [hd]
        · cases h

/-- A write that was answered by its own error changed nothing, for its condition failed. -/
theorem write_refused {refused error : DbError} (hlost : error ≠ connectionLost)
    (hmutation : error ≠ .mutationDisabled)
    (h : (s.write e readOnly op refused).1 = .error error) : s.db.now.change e.now op = none := by
  unfold write at h
  split at h
  · exact absurd (Except.error.inj h).symm hmutation
  · split at h
    · exact absurd (Except.error.inj h).symm hlost
    · simp only at h
      split at h
      · exact absurd (Except.error.inj h).symm hlost
      · split at h
        · cases h
        · rename_i hnone
          exact Option.not_isSome_iff_eq_none.mp hnone

theorem read_ok {α : Type} {answer a : α} (h : (s.read e answer).1 = .ok a) : a = answer := by
  unfold read at h
  split at h
  · exact (Except.ok.inj h).symm
  · cases h

theorem write_clock {refused : DbError} : (s.write e readOnly op refused).2.clock = e.now := by
  unfold write
  split
  · rfl
  · split
    · rfl
    · show (s.commit e op).clock = e.now
      unfold commit
      split <;> rfl

/-- The time of a request is the time afterwards. -/
theorem serve_clock (s : OAuthStore) (e : OAuthEnv) (readOnly : Bool) (op : OAuthOp) :
    (s.serve e readOnly op).2.clock = e.now := by
  cases op
  case putEphemeralState => exact write_clock
  case deleteEphemeralState => exact write_clock
  case createOAuthGrant => exact write_clock
  case updateOAuthGrant => exact write_clock
  case deleteOAuthGrant => exact write_clock
  case expire table id =>
      show (s.commit e _).clock = e.now
      unfold commit
      split <;> rfl
  all_goals rfl

theorem write_drawn {refused : DbError} : (s.write e readOnly op refused).2.nonces = s.nonces ∧
    (s.write e readOnly op refused).2.ids = s.ids := by
  unfold write
  split
  · exact ⟨rfl, rfl⟩
  · split
    · exact ⟨rfl, rfl⟩
    · show (s.commit e op).nonces = s.nonces ∧ (s.commit e op).ids = s.ids
      unfold commit
      split <;> exact ⟨rfl, rfl⟩

/-- What was drawn stays, and a request draws what `Env` offers. -/
theorem serve_drawn (s : OAuthStore) (e : OAuthEnv) (readOnly : Bool) (op : OAuthOp) :
    (∀ nonce ∈ s.nonces, nonce ∈ (s.serve e readOnly op).2.nonces) ∧
    ∀ id ∈ s.ids, id ∈ (s.serve e readOnly op).2.ids := by
  have hwrite : ∀ refused, (∀ nonce ∈ s.nonces, nonce ∈ (s.write e readOnly op refused).2.nonces) ∧
      ∀ id ∈ s.ids, id ∈ (s.write e readOnly op refused).2.ids := by
    intro refused
    rw [write_drawn.1, write_drawn.2]
    exact ⟨fun _ h => h, fun _ h => h⟩
  cases op
  case putEphemeralState => exact hwrite _
  case deleteEphemeralState => exact hwrite _
  case createOAuthGrant => exact hwrite _
  case updateOAuthGrant => exact hwrite _
  case deleteOAuthGrant => exact hwrite _
  case expire table id =>
      show (∀ nonce ∈ s.nonces, nonce ∈ (s.commit e _).nonces) ∧ ∀ id ∈ s.ids, id ∈ (s.commit e _).ids
      unfold commit
      split <;> exact ⟨fun _ h => h, fun _ h => h⟩
  case newId => exact ⟨fun _ h => h, fun _ h => List.mem_cons_of_mem _ h⟩
  case generateNonce => exact ⟨fun _ h => List.mem_cons_of_mem _ h, fun _ h => h⟩
  all_goals exact ⟨fun _ h => h, fun _ h => h⟩

end OAuthStore

/-! ### The invariant -/

section invariant
variable {readOnly consistent : Bool}

/-- What holds of every reachable trace. -/
structure OAuthInvariant (libs : OAuthLibs) (t : Trace (oauthService readOnly consistent)) :
    Prop where
  drawn : ∀ {i bytes nonce}, ⟨i, .generateNonce bytes, nonce⟩ ∈ t.events → nonce ∈ noncesOf t
  minted : ∀ {i id}, ⟨i, .newId, id⟩ ∈ t.events → id ∈ idsOf t
  once : DrawnOnce t.events
  row : ∀ {d id grant}, (oauthDb t).Committed d → d.grants.lookup id = some grant →
    GrantOf libs t.events id grant
  same : ∀ {d d' id grant grant'}, (oauthDb t).Committed d → (oauthDb t).Committed d' →
    d.grants.lookup id = some grant → d'.grants.lookup id = some grant' → grant.Same grant'
  read : ∀ {i id grant}, ⟨i, .getOAuthGrant id, .ok (some grant)⟩ ∈ t.events →
    ∃ d, (oauthDb t).Committed d ∧ d.grants.lookup id = some grant

variable {libs : OAuthLibs} {t : Trace (oauthService readOnly consistent)} {i : ℕ} {e : OAuthEnv}
variable {op : OAuthOp}

theorem oauthDb_serve (t : Trace (oauthService readOnly consistent)) (i : ℕ) (e : OAuthEnv)
    (op : OAuthOp) : oauthDb (t.serve i e op) = oauthDb t ∨
    ∃ d, (oauthDb t).now.change e.now op = some d ∧
      oauthDb (t.serve i e op) = (oauthDb t).write d :=
  OAuthStore.serve_db t.state e readOnly op

theorem mem_serve {ev : OAuthEvent} (hev : ev ∈ t.events) : ev ∈ (t.serve i e op).events :=
  List.mem_append_left _ hev

theorem NoCollision.serve {secret : String → String}
    (h : NoCollision libs (t.serve i e op).events secret) : NoCollision libs t.events secret :=
  h.mono fun _ => mem_serve

/-- A version that is committed after a request was committed before, or is the latest one. -/
theorem committed_served {d : OAuthDb} (h : (oauthDb (t.serve i e op)).Committed d) :
    (oauthDb t).Committed d ∨ d = (oauthDb (t.serve i e op)).now := by
  rcases oauthDb_serve t i e op with hdb | ⟨d', -, hdb⟩
  · exact .inl (hdb ▸ h)
  · rw [hdb] at h ⊢
    rcases List.mem_cons.mp h with rfl | h
    · exact .inr rfl
    · exact .inl h

theorem committed_stays {d : OAuthDb} (h : (oauthDb t).Committed d) :
    (oauthDb (t.serve i e op)).Committed d := by
  rcases oauthDb_serve t i e op with hdb | ⟨d', -, hdb⟩
  · rw [hdb]
    exact h
  · rw [hdb]
    exact Replica.committed_write _ h

/-- The row that a call creates. -/
theorem GrantOf.of_create {grant : OAuthGrant}
    (hop : (OAuthOp.createOAuthGrant grant).ordered libs i (ownEvents i t.events)) :
    GrantOf libs (t.serve i e (.createOAuthGrant grant)).events grant.id grant := by
  obtain ⟨-, hid, payload, resource, scope, access, refresh, now, -, hrefresh, heq⟩ := hop
  have hmem : ∀ {ev : OAuthEvent}, ev ∈ ownEvents i t.events →
      ev ∈ (t.serve i e (.createOAuthGrant grant)).events :=
    fun hev => mem_serve (mem_ownEvents.mp hev).1
  refine ⟨rfl, ?_, ?_, ⟨i, hmem hid, _, mem_last, rfl, rfl⟩,
    ⟨i, refresh, hmem hrefresh, ?_, _, mem_last, rfl, rfl⟩⟩
  · rw [heq]
    rfl
  · rw [heq]
    exact Nat.min_le_right _ _
  · rw [heq]
    rfl

/-- The row that a rotation stores. -/
theorem OAuthInvariant.rotated (h : OAuthInvariant libs t) {id expected accessHash refreshHash : String}
    {accessExpires refreshExpires : ℕ} {grant grant' : OAuthGrant}
    (hop : (OAuthOp.updateOAuthGrant id (.rotate expected accessHash accessExpires refreshHash
      refreshExpires)).ordered libs i (ownEvents i t.events))
    (hrow : (oauthDb t).now.grants.lookup id = some grant)
    (hshape : grant.update (.rotate expected accessHash accessExpires refreshHash refreshExpires) =
      some grant') :
    grant.refreshTokenHash = expected ∧
    GrantOf libs (t.serve i e (.updateOAuthGrant id (.rotate expected accessHash accessExpires
      refreshHash refreshExpires))).events id grant' ∧
    (NoCollision libs t.events (refreshToken id) →
      ¬ StoredHash libs t.events id grant'.refreshTokenHash) := by
  obtain ⟨hunsent, key, seen, access, refresh, now, hget, hid, -, hrefresh, hrotation⟩ := hop
  have hrefreshHash : refreshHash = libs.sha256Hex (refreshToken id refresh) := by
    injection hrotation
  have hexpires : refreshExpires = min (now + refreshTokenLifetimeS) seen.expiresAt := by
    injection hrotation
  obtain ⟨d, hd, hseen⟩ := h.read (mem_ownEvents.mp hget).1
  have hkey : key = id := (h.row hd hseen).key.symm.trans hid
  subst hkey
  have hsame := h.same hd (Replica.committed_now _) hseen hrow
  have hold := h.row (Replica.committed_now _) hrow
  simp only [OAuthGrant.update] at hshape
  split at hshape
  · rename_i hmatch
    cases hshape
    refine ⟨hmatch, ⟨hold.key, hold.expires, ?_, hold.created.mono fun _ => mem_serve, ?_⟩, ?_⟩
    · show refreshExpires ≤ grant.expiresAt
      rw [hexpires, hsame.expiresAt]
      exact Nat.min_le_right _ _
    · exact ⟨i, refresh, mem_serve (mem_ownEvents.mp hrefresh).1, hrefreshHash, _, mem_last, rfl, rfl⟩
    · intro hcoll
      show ¬ StoredHash libs t.events key refreshHash
      rw [hrefreshHash]
      exact h.once.not_stored (mem_ownEvents.mp hrefresh).1 hunsent hcoll
  · cases hshape

/-- What a request of a call does to one grant. -/
theorem OAuthInvariant.grant_step (h : OAuthInvariant libs t)
    (hop : op.ordered libs i (ownEvents i t.events)) (id : String) :
    GrantStep libs t.events (t.serve i e op).events op id ((oauthDb t).now.grants.lookup id)
      ((oauthDb (t.serve i e op)).now.grants.lookup id) := by
  rcases oauthDb_serve t i e op with hdb | ⟨d', hchange, hdb⟩
  · rw [hdb]
    exact .keep _
  rw [hdb, Replica.write_now]
  cases OAuthDb.grants_move hchange with
  | same heq =>
      rw [heq]
      exact .keep _
  | create hcreate hnew heq =>
      subst hcreate
      rw [heq, Table.lookup_insert_if]
      split
      · rename_i hid
        subst hid
        rw [hnew]
        exact .create (h.once.not_created (mem_ownEvents.mp hop.2.1).1 hop.1) (.of_create hop)
      · exact .keep _
  | delete heq =>
      rw [heq, Table.lookup_erase_if]
      split
      · rcases (oauthDb t).now.grants.lookup id with _ | grant
        · exact .keep _
        · exact .delete
      · exact .keep _
  | @update id' shape grant grant' hupdate hrow hshape heq =>
      subst hupdate
      rw [heq, Table.lookup_insert_if]
      split
      · rename_i hid
        subst hid
        rw [hrow]
        cases shape with
        | touchLastUsed now =>
            cases hshape
            exact .touch
        | rotate expected accessHash accessExpires refreshHash refreshExpires =>
            obtain ⟨hmatch, hgrant, hnew⟩ := h.rotated hop hrow hshape
            subst hmatch
            exact .rotate rfl (OAuthGrant.same_update hshape).1 hgrant hnew
      · exact .keep _

/-! ### The invariant is kept -/

theorem OAuthInvariant.drawn_serve (h : OAuthInvariant libs t) (i : ℕ) (op : OAuthOp)
    (he : (oauthService readOnly consistent).Allowed t.state e) :
    (∀ {j bytes nonce}, ⟨j, .generateNonce bytes, nonce⟩ ∈ (t.serve i e op).events →
      nonce ∈ noncesOf (t.serve i e op)) ∧
    (∀ {j id}, ⟨j, .newId, id⟩ ∈ (t.serve i e op).events → id ∈ idsOf (t.serve i e op)) ∧
    DrawnOnce (t.serve i e op).events := by
  obtain ⟨hnonces, hids⟩ := OAuthStore.serve_drawn t.state e readOnly op
  have hlast : ∀ {ev : OAuthEvent}, ev ∈ (t.serve i e op).events → ev ∈ t.events ∨
      ev = ⟨i, op, ((oauthService readOnly consistent).serve t.state e op).1⟩ := by
    intro ev hev
    rcases List.mem_append.mp hev with hev | hev
    · exact .inl hev
    · exact .inr (List.mem_singleton.mp hev)
  refine ⟨fun {j bytes nonce} hev => ?_, fun {j id} hev => ?_, ⟨fun {j k b b' nonce} hj hk => ?_,
    fun {j k id} hj hk => ?_⟩⟩
  · rcases hlast hev with hev | heq
    · exact hnonces _ (h.drawn hev)
    · cases heq
      exact List.mem_cons_self
  · rcases hlast hev with hev | heq
    · exact hids _ (h.minted hev)
    · cases heq
      exact List.mem_cons_self
  · rcases hlast hj with hold | heq
    · rcases hlast hk with hold' | heq'
      · exact h.once.nonce hold hold'
      · cases heq'
        exact absurd (h.drawn hold) he.2.2.1
    · rcases hlast hk with hold' | heq'
      · cases heq
        exact absurd (h.drawn hold') he.2.2.1
      · cases heq
        cases heq'
        rfl
  · rcases hlast hj with hold | heq
    · rcases hlast hk with hold' | heq'
      · exact h.once.id hold hold'
      · cases heq'
        exact absurd (h.minted hold) he.2.1
    · rcases hlast hk with hold' | heq'
      · cases heq
        exact absurd (h.minted hold') he.2.1
      · cases heq
        cases heq'
        rfl

/-- The latest row of a grant after a request. -/
theorem OAuthInvariant.row_now (h : OAuthInvariant libs t)
    (hop : op.ordered libs i (ownEvents i t.events)) {id : String} {grant : OAuthGrant}
    (hrow : (oauthDb (t.serve i e op)).now.grants.lookup id = some grant) :
    GrantOf libs (t.serve i e op).events id grant ∧
    ∀ {d old}, (oauthDb t).Committed d → d.grants.lookup id = some old → old.Same grant := by
  have hstep := h.grant_step (e := e) hop id
  rw [hrow] at hstep
  generalize hnow : (oauthDb t).now.grants.lookup id = row at hstep
  have hbefore : ∀ {before}, row = some before → GrantOf libs (t.serve i e op).events id before ∧
      ∀ {d old}, (oauthDb t).Committed d → d.grants.lookup id = some old → old.Same before := by
    intro before hbefore
    have hbefore' := hnow.trans hbefore
    exact ⟨(h.row (Replica.committed_now _) hbefore').mono fun _ => mem_serve,
      fun hd hold => h.same hd (Replica.committed_now _) hold hbefore'⟩
  cases hstep with
  | keep => exact hbefore rfl
  | create hnever hgrant =>
      exact ⟨hgrant, fun hd hold => absurd (h.row hd hold).created hnever⟩
  | rotate hop hsame hgrant hnew =>
      exact ⟨hgrant, fun hd hold => ((hbefore rfl).2 hd hold).trans hsame⟩
  | touch =>
      obtain ⟨hgrant, hsame⟩ := hbefore rfl
      refine ⟨⟨hgrant.key, hgrant.expires, hgrant.refresh, hgrant.created, hgrant.stored⟩, ?_⟩
      exact fun hd hold => (hsame hd hold).trans ⟨rfl, rfl, rfl, rfl, rfl, rfl, rfl, rfl⟩

theorem OAuthInvariant.serve (h : OAuthInvariant libs t)
    (he : (oauthService readOnly consistent).Allowed t.state e)
    (hop : op.ordered libs i (ownEvents i t.events)) : OAuthInvariant libs (t.serve i e op) := by
  obtain ⟨hdrawn, hminted, honce⟩ := h.drawn_serve i op he
  refine ⟨hdrawn, hminted, honce, fun {d id grant} hd hrow => ?_,
    fun {d d' id grant grant'} hd hd' hrow hrow' => ?_, fun {j id grant} hev => ?_⟩
  · rcases committed_served hd with hd | rfl
    · exact (h.row hd hrow).mono fun _ => mem_serve
    · exact (h.row_now hop hrow).1
  · rcases committed_served hd with hd | rfl
    · rcases committed_served hd' with hd' | rfl
      · exact h.same hd hd' hrow hrow'
      · exact (h.row_now hop hrow').2 hd hrow
    · rcases committed_served hd' with hd' | rfl
      · exact ((h.row_now hop hrow).2 hd' hrow').symm
      · rw [hrow, Option.some.injEq] at hrow'
        rw [hrow']
        exact .refl _
  · rcases List.mem_append.mp hev with hev | hev
    · obtain ⟨d, hd, hrow⟩ := h.read hev
      exact ⟨d, committed_stays hd, hrow⟩
    · have heq := List.mem_singleton.mp hev
      obtain rfl : op = .getOAuthGrant id := (congrArg Event.op heq).symm
      have hres : (OAuthStore.read t.state e ((oauthDb t).now.grants.lookup id)).1 =
          .ok (some grant) := by
        injection heq with _ _ hres
        exact hres.symm
      exact ⟨_, committed_stays (Replica.committed_now _), (OAuthStore.read_ok hres).symm⟩

theorem OAuthInvariant.init :
    OAuthInvariant libs (⟨[], emptyOAuthStore⟩ : Trace (oauthService readOnly consistent)) where
  drawn hev := by cases hev
  minted hev := by cases hev
  once := ⟨fun hev => (by cases hev), fun hev => (by cases hev)⟩
  row hd hrow := by
    obtain rfl := List.mem_singleton.mp hd
    cases hrow
  same hd _ hrow := by
    obtain rfl := List.mem_singleton.mp hd
    cases hrow
  read hev := by cases hev

end invariant

/-! ### Runs -/

section runs
variable {readOnly consistent : Bool} {libs : OAuthLibs}
variable {c c₁ c₂ c' : Pool (oauthService readOnly consistent) OAuthFailure OAuthReply}

/-- The pools that the calls lead to. -/
def OAuthReachable (libs : OAuthLibs)
    (c : Pool (oauthService readOnly consistent) OAuthFailure OAuthReply) : Prop :=
  Run (oauthService readOnly consistent) (IsOAuthCall libs) (Pool.init emptyOAuthStore) c

theorem OAuthReachable.trans (h : OAuthReachable libs c)
    (hrun : Run (oauthService readOnly consistent) (IsOAuthCall libs) c c') :
    OAuthReachable libs c' := Relation.ReflTransGen.trans h hrun

theorem OAuthReachable.started (h : OAuthReachable libs c) : c.Started (IsOAuthCall libs) :=
  Run.started h (.init _)

theorem OAuthReachable.invariant (h : OAuthReachable libs c) : OAuthInvariant libs c.trace :=
  Run.contract (fun _ hp i => ordered_call hp i) (fun hinv he hop => hinv.serve he hop) h .init

/-- What the requests of calls that satisfy `P` keep holds after a run of them. -/
theorem OAuthReachable.keeps {P : OAuthEvent → Prop}
    {K : Trace (oauthService readOnly consistent) → Prop} (h : OAuthReachable libs c)
    (hrun : Run (oauthService readOnly consistent) (IsOAuthCall libs) c c')
    (hstep : ∀ {t i e op}, OAuthInvariant libs t → (oauthService readOnly consistent).Allowed t.state e →
      op.ordered libs i (ownEvents i t.events) →
      P ⟨i, op, ((oauthService readOnly consistent).serve t.state e op).1⟩ → K t →
      K (t.serve i e op))
    (hP : ∀ ev ∈ c.since c', P ev) (h₀ : K c.trace) : K c'.trace :=
  (Run.contract_since (K := fun t => OAuthInvariant libs t ∧ K t)
    (fun _ hp i => ordered_call hp i)
    (fun hK he hop hev => ⟨hK.1.serve he hop, hstep hK.1 he hop hev hK.2⟩) hrun h.started hP
    ⟨h.invariant, h₀⟩).2

/-- A grant that was deleted stays deleted. -/
theorem OAuthReachable.gone (h : OAuthReachable libs c)
    (hrun : Run (oauthService readOnly consistent) (IsOAuthCall libs) c c') {id : String}
    (hcreated : Created c.trace.events id)
    (hgone : (oauthDb c.trace).now.grants.lookup id = none) :
    (oauthDb c'.trace).now.grants.lookup id = none := by
  refine (h.keeps (P := fun _ => True)
    (K := fun t => Created t.events id ∧ (oauthDb t).now.grants.lookup id = none) hrun ?_
    (fun _ _ => trivial) ⟨hcreated, hgone⟩).2
  rintro t i e op hinv _ hop _ ⟨hcreated, hgone⟩
  refine ⟨hcreated.mono fun _ => mem_serve, ?_⟩
  have hstep := hinv.grant_step (e := e) hop id
  rw [hgone] at hstep
  generalize (oauthDb (t.serve i e op)).now.grants.lookup id = row at hstep ⊢
  cases hstep with
  | keep => rfl
  | create hnever => exact absurd hcreated hnever

/-- Time passes along a run, and the calls read it. -/
theorem OAuthReachable.clock_mono (h : OAuthReachable libs c)
    (hrun : Run (oauthService readOnly consistent) (IsOAuthCall libs) c c') :
    clockOf c.trace ≤ clockOf c'.trace ∧ ∀ {i now}, ⟨i, .clock, now⟩ ∈ c'.trace.events →
      ⟨i, .clock, now⟩ ∈ c.trace.events ∨ clockOf c.trace ≤ now := by
  refine h.keeps (P := fun _ => True)
    (K := fun t => clockOf c.trace ≤ clockOf t ∧ ∀ {i now}, ⟨i, .clock, now⟩ ∈ t.events →
      ⟨i, .clock, now⟩ ∈ c.trace.events ∨ clockOf c.trace ≤ now) hrun ?_ (fun _ _ => trivial)
    ⟨Nat.le_refl _, fun hev => .inl hev⟩
  rintro t i e op - he - - ⟨hle, hevents⟩
  have hnow : clockOf c.trace ≤ e.now := Nat.le_trans hle he.1
  refine ⟨?_, fun {j now} hev => ?_⟩
  · show _ ≤ OAuthStore.clock (OAuthStore.serve t.state e readOnly op).2
    rw [OAuthStore.serve_clock]
    exact hnow
  · rcases List.mem_append.mp hev with hev | hev
    · exact hevents hev
    · cases List.mem_singleton.mp hev
      exact .inr hnow

/-- A grant is read as it is. -/
theorem grant_read {i : ℕ} {id : String} {row : Option OAuthGrant}
    (h : Serves (oauthService readOnly consistent) (IsOAuthCall libs) c₁ c₂
      ⟨i, .getOAuthGrant id, .ok row⟩) : (oauthDb c₁.trace).now.grants.lookup id = row := by
  obtain ⟨e, -, -, -, -, hres⟩ := h.trace
  exact (OAuthStore.read_ok hres.symm).symm

end runs

/-! ### Rotations -/

section rotations
variable {readOnly consistent : Bool} {libs : OAuthLibs}

/-- Program `i` rotated the grant `id` away from the refresh hash `expected`. -/
def Rotated (evs : List OAuthEvent) (i : ℕ) (id expected : String) : Prop :=
  ∃ accessHash accessExpires refreshHash refreshExpires, ⟨i, .updateOAuthGrant id
    (.rotate expected accessHash accessExpires refreshHash refreshExpires), .ok ()⟩ ∈ evs

/-- The refresh hashes that were rotated away are spent: they are not those of the grant any more,
and each was rotated away once. -/
structure Spent (libs : OAuthLibs) (t : Trace (oauthService readOnly consistent)) (id : String) :
    Prop where
  replaced : ∀ {i expected}, Rotated t.events i id expected → Created t.events id ∧
    StoredHash libs t.events id expected ∧ ∀ grant, (oauthDb t).now.grants.lookup id = some grant →
      grant.refreshTokenHash ≠ expected
  once : ∀ {i j expected}, Rotated t.events i id expected → Rotated t.events j id expected → i = j

variable {t : Trace (oauthService readOnly consistent)} {i : ℕ} {e : OAuthEnv} {op : OAuthOp}
variable {id expected : String}

/-- A rotation that is answered replaces the hash it expects. -/
theorem OAuthInvariant.rotates (h : OAuthInvariant libs t)
    (hcoll : NoCollision libs t.events (refreshToken id))
    (hordered : op.ordered libs i (ownEvents i t.events))
    {accessHash refreshHash : String} {accessExpires refreshExpires j : ℕ}
    (hev : (⟨i, op, ((oauthService readOnly consistent).serve t.state e op).1⟩ : OAuthEvent) =
      ⟨j, .updateOAuthGrant id
        (.rotate expected accessHash accessExpires refreshHash refreshExpires), .ok ()⟩) :
    ∃ grant grant', (oauthDb t).now.grants.lookup id = some grant ∧
      grant.refreshTokenHash = expected ∧
      (oauthDb (t.serve i e op)).now.grants.lookup id = some grant' ∧
      grant'.refreshTokenHash ≠ expected := by
  obtain rfl : op = _ := congrArg Event.op hev
  injection hev with _ _ hok
  obtain ⟨d', hchange, hdb⟩ := OAuthStore.write_ok hok
  obtain ⟨grant, hrow, h'⟩ := Option.bind_eq_some_iff.mp hchange
  obtain ⟨grant', hshape, rfl⟩ := Option.map_eq_some_iff.mp h'
  obtain ⟨hmatch, -, hnew⟩ := h.rotated (e := e) hordered hrow hshape
  have hstored := (h.row (Replica.committed_now _) hrow).stored
  refine ⟨grant, grant', hrow, hmatch, ?_, fun heq => hnew hcoll ?_⟩
  · show AList.lookup id (OAuthStore.db (OAuthStore.write t.state e readOnly _ _).2).now.grants = _
    rw [hdb]
    exact AList.lookup_insert _
  · rw [heq, ← hmatch]
    exact hstored

/-- A request does not bring a spent hash back. -/
theorem OAuthInvariant.stays_replaced (h : OAuthInvariant libs t)
    (hcoll : NoCollision libs t.events (refreshToken id))
    (hordered : op.ordered libs i (ownEvents i t.events)) (hcreated : Created t.events id)
    (hstored : StoredHash libs t.events id expected)
    (hreplaced : ∀ grant, (oauthDb t).now.grants.lookup id = some grant →
      grant.refreshTokenHash ≠ expected) {grant : OAuthGrant}
    (hrow : (oauthDb (t.serve i e op)).now.grants.lookup id = some grant) :
    grant.refreshTokenHash ≠ expected := by
  have hstep := h.grant_step (e := e) hordered id
  rw [hrow] at hstep
  generalize hnow : (oauthDb t).now.grants.lookup id = row at hstep
  cases hstep with
  | keep => exact hreplaced grant hnow
  | create hnever => exact absurd hcreated hnever
  | rotate hop hsame hgrant hnew => exact fun heq => hnew hcoll (heq ▸ hstored)
  | @touch before now => exact hreplaced before hnow

theorem Spent.serve (h : OAuthInvariant libs t) (hordered : op.ordered libs i (ownEvents i t.events))
    (hcoll : NoCollision libs t.events (refreshToken id)) (hspent : Spent libs t id) :
    Spent libs (t.serve i e op) id := by
  have hlast : ∀ {j expected}, Rotated (t.serve i e op).events j id expected →
      Rotated t.events j id expected ∨ j = i ∧ Created t.events id ∧
      StoredHash libs t.events id expected ∧
      (∃ grant, (oauthDb t).now.grants.lookup id = some grant ∧ grant.refreshTokenHash = expected) ∧
      ∀ grant, (oauthDb (t.serve i e op)).now.grants.lookup id = some grant →
        grant.refreshTokenHash ≠ expected := by
    rintro j expected ⟨accessHash, accessExpires, refreshHash, refreshExpires, hev⟩
    rcases List.mem_append.mp hev with hev | hev
    · exact .inl ⟨accessHash, accessExpires, refreshHash, refreshExpires, hev⟩
    · have heq := (List.mem_singleton.mp hev).symm
      obtain ⟨grant, grant', hrow, hmatch, hrow', hnew⟩ := h.rotates hcoll hordered heq
      have hgrant := h.row (Replica.committed_now _) hrow
      refine .inr ⟨(congrArg Event.caller heq).symm, hgrant.created, hmatch ▸ hgrant.stored,
        ⟨grant, hrow, hmatch⟩, fun grant'' hrow'' => ?_⟩
      rw [hrow', Option.some.injEq] at hrow''
      rw [← hrow'']
      exact hnew
  refine ⟨fun hrotated => ?_, fun hrotated hrotated' => ?_⟩
  · rcases hlast hrotated with hold | ⟨-, hcreated, hstored, -, hnew⟩
    · obtain ⟨hcreated, hstored, hreplaced⟩ := hspent.replaced hold
      exact ⟨hcreated.mono fun _ => mem_serve, hstored.mono fun _ => mem_serve,
        fun grant hrow => h.stays_replaced hcoll hordered hcreated hstored hreplaced hrow⟩
    · exact ⟨hcreated.mono fun _ => mem_serve, hstored.mono fun _ => mem_serve, hnew⟩
  · rcases hlast hrotated with hold | ⟨rfl, -, -, ⟨grant, hrow, hmatch⟩, -⟩
    · rcases hlast hrotated' with hold' | ⟨rfl, -, -, ⟨grant, hrow, hmatch⟩, -⟩
      · exact hspent.once hold hold'
      · exact absurd hmatch ((hspent.replaced hold).2.2 grant hrow)
    · rcases hlast hrotated' with hold' | ⟨rfl, -⟩
      · exact absurd hmatch ((hspent.replaced hold').2.2 grant hrow)
      · rfl

/-- In every reachable pool the refresh hashes that were rotated away are spent. -/
theorem OAuthReachable.spent {c : Pool (oauthService readOnly consistent) OAuthFailure OAuthReply}
    (h : OAuthReachable libs c) (hcoll : NoCollision libs c.trace.events (refreshToken id)) :
    Spent libs c.trace id := by
  refine (OAuthReachable.keeps (P := fun _ => True)
    (K := fun t => NoCollision libs t.events (refreshToken id) → Spent libs t id) (.refl) h ?_
    (fun _ _ => trivial) ?_) hcoll
  · intro t i e op hinv _ hordered _ hspent hcoll
    have hcoll' := hcoll.serve
    exact (hspent hcoll').serve hinv hordered hcoll'
  · intro _
    constructor
    · rintro i expected ⟨_, _, _, _, hev⟩
      cases hev
    · rintro i j expected ⟨_, _, _, _, hev⟩
      cases hev

end rotations

/-! ### Sample runs

The user `u1` approves the client, which exchanges its code and refreshes its tokens.  The libraries
agree with the real ones on the strings of the runs; the forms are named by their first byte. -/

/-- The identifier and the nonce that the `n`-th request of a sample run may draw. -/
def sampleId (n : ℕ) : String := "g" ++ toString n

def sampleNonce (n : ℕ) : String := "n" ++ toString n

/-- SHA-256 of the secrets of the sample runs. -/
def sampleHashes : List (String × String) :=
  [("n1", "676b8bb84ce7267dd520deca4811c8f10a53e636352f06987f42fe425acedd80"),
    ("n8", "104e736cd8917d320576a48e14897f5104701498e095b193156da22de66d7d38"),
    ("n9", "9d109e0c6a5ccedf2cd060f1437027e97d406cc9efb840b4a672deae19bade79"),
    ("n10", "796690d3d284ec098f0f30b58c66f95a70ac32e7c2ec38d39a504a29dc9f376b"),
    ("n16", "5b82a3069343d3c9ec3e471ee8a57f300595ab6d2de08d9d2a46bda2375c7fb4"),
    ("n17", "45415bc117ae92dd968f64dd9b8a35bb7c6a90a030422206fb99277460fa45ed"),
    ("mtoa_g7.n1", "595ea02dd2337081b7ef20ba9ba91123d40193b5f00cc766d724ce24751b5905"),
    ("mtoa_g7.n8", "83c4e366c72641dd8cedf675b5c92ab0e631d57596f4a24cbc4a2377c81e76c0"),
    ("mtoa_g7.n9", "9d52d82fb4c15e55cd71b3904f58c97eb4fa288d23cecebd589a0c9186299851"),
    ("mtoa_g7.n16", "52f21161ef8587d7c2254ea4e12114448ce0c532808216f596631fc5fbd5b9f3"),
    ("mtoa_g7.n17", "321914c2d94c5ce0b45ba1136eea92321805b4984d8d97296686adfbab365a3b"),
    ("mtoa_g7.n24", "cd2a1fa36d3b7124e9c9c5bc3a8f3c279f4ada576734819ce7873f79d3689f41"),
    ("mtor_g7.n1", "4a3d85681db76787c3fb000ba6e4d911ff5edccb9946b83cfb98ba0e9629a6c1"),
    ("mtor_g7.n8", "405a8e738d3abd7261037129abd74070d3a13249ade23e5fcd4fc65431fd8e20"),
    ("mtor_g7.n9", "6bf093b549aa9828b9f95e519f30d0ab3062b6a5655bef1880e19bce88fa7db1"),
    ("mtor_g7.n16", "bc421c597416b5ec93b8ddc19b748e8cbbe5f02221c3b43c1faa68db99733c4b"),
    ("mtor_g7.n17", "ffb62fbf651f4de6287499980e9b686ba652a76aab54c320b2a1b99285b42456"),
    ("mtor_g7.n18", "0bfe5ae5f67558184934585b7c1bb50849ecf8c92a6d47e947d0b550f50dd4cb"),
    ("mtor_g7.n24", "f6e77487abc63869494d6194cd89c70a0d2a52fa15a3e1d0261c2e603e4cfe4b"),
    ("mtor_g7.n25", "a68e5539ae093cfce81425dd6f0d9a2fb52252c1e65932e9c9a08176204a7949"),
    ("mtoa_g8.n9", "a35c2d87f6bb0890ff0dc87bef73707d55b4acbf89ad1417d3162ab0ddbbc5ca"),
    ("mtor_g8.n10", "89626055a29f4ca91c52c91914421d42c273110ce1971c4be4064652b32435a6"),
    ("mtoa_g15.n16", "4034d8d1fc8ae671b4e55aa9f350b7b968f6f449c5aa84233a5c6c42f2b87c9c"),
    ("mtor_g15.n17", "53f56d8a465fee3914d8cd626804bf61822578a0724ff29ab7fb118b466e6cf6")]

def sampleRegistrationJson : String :=
  "\x7b\"client_name\":\"C\",\"redirect_uris\":[\"https://a.io\"],\"iat\":1\x7d"

/-- Its base64url form and signature. -/
def sampleRegistrationText : String :=
  "eyJjbGllbnRfbmFtZSI6IkMiLCJyZWRpcmVjdF91cmlzIjpbImh0dHBzOi8vYS5pbyJdLCJpYXQiOjF9"

def sampleSignatureText : String := "l5Dm6x93uywQH6V-KYtnbqEt6gq0_ussp6hB5jyTCsw"

def sampleSignature : List UInt8 :=
  [151, 144, 230, 235, 31, 119, 187, 44, 16, 31, 165, 126, 41, 139, 103, 110, 161, 45, 234, 10,
    180, 254, 235, 44, 167, 168, 65, 230, 60, 147, 10, 204]

def sampleClientId : String := sampleRegistrationText ++ "." ++ sampleSignatureText

def sampleVerifier : String := "dBjftJeZ4CVP-mB92K27uhbUJU1p1r_wW1gFWFOEjXk"

def sampleChallenge : String := "E9Melhoa2OwvFrEMTJguCHaoeK1t8URWbuGJSstw-cM"

def sampleRegistration : ClientRegistration := ⟨"C", ["https://a.io"], 1⟩

def samplePayload : AuthCodePayload where
  userId := "u1"
  clientId := sampleClientId
  clientName := "C"
  redirectUri := "https://a.io"
  codeChallenge := sampleChallenge
  scope := none
  resource := none

/-- The JSON text of a payload without the optional fields. -/
def samplePayloadText (payload : AuthCodePayload) : String :=
  "\x7b\"user_id\":\"" ++ payload.userId ++ "\",\"client_id\":\"" ++ payload.clientId ++
    "\",\"client_name\":\"" ++ payload.clientName ++ "\",\"redirect_uri\":\"" ++
    payload.redirectUri ++ "\",\"code_challenge\":\"" ++ payload.codeChallenge ++ "\"\x7d"

/-- The forms of the sample runs: the exchange of the code, and the refresh. -/
def sampleForms : List (List (String × String)) :=
  [[("grant_type", "authorization_code"), ("code", "n1"), ("client_id", sampleClientId),
      ("redirect_uri", "https://a.io"), ("code_verifier", sampleVerifier)],
    [("grant_type", "refresh_token"), ("refresh_token", "mtor_g7.n9"),
      ("client_id", sampleClientId)]]

def sampleOAuthLibs : OAuthLibs where
  debug s := "\"" ++ s ++ "\""
  sha256Hex s := ((sampleHashes.find? fun pair => pair.1 == s).map Prod.snd).getD ""
  sha256Base64Url _ := sampleChallenge
  hmacSha256 _ _ := sampleSignature
  base64UrlDecode text :=
    if text = sampleRegistrationText then some (asBytes sampleRegistrationJson)
    else if text = sampleSignatureText then some sampleSignature else none
  parseRegistration json :=
    if json = asBytes sampleRegistrationJson then some sampleRegistration else none
  serializePayload := samplePayloadText
  parsePayload text := if text = samplePayloadText samplePayload then some samplePayload else none
  parseForm body := (body.head?.bind fun n => sampleForms[n.toNat]?).getD []
  appendCode uri code _ := some (uri ++ "/?code=" ++ code)
  clientIdKey := some (List.replicate 32 7)
  apiBaseUrlVar := some "https://api.a.io"

/-- The choices of the sample runs: no failure, and what is drawn is fresh. -/
def sampleOAuthEnv (n : ℕ) : OAuthEnv where
  now := 1000 + n
  newId := sampleId n
  nonce := sampleNonce n
  lag := 0
  fault := .none
  user := .ok (some ⟨true, false, some 1000⟩)
  userUpdate := .ok ()
  memberships := .ok []

/-- The tables with reads that are never stale. -/
abbrev sampleOAuth : Service OAuthOp OAuthOp.Res := oauthService false true

abbrev OAuthMove : Type := Move sampleOAuth (IsOAuthCall sampleOAuthLibs)

abbrev OAuthPool : Type := Pool sampleOAuth OAuthFailure OAuthReply

/-- A call is made. -/
def oauthCall (call : OAuthCall) : OAuthMove := .start (call.program sampleOAuthLibs) ⟨call, rfl⟩

/-- The calls of the sample runs: the approval, two exchanges of its code, and two refreshes with the
token that the first of them was given. -/
def sampleOAuthCalls : List OAuthCall :=
  [.approveOAuthAuthorization (some (.user "u1" [] false)) sampleClientId "https://a.io"
      sampleChallenge "S256" none none none,
    .token none [0], .token none [0], .token none [1], .token none [1]]

/-- The requests of the programs in this order are served. -/
def oauthServes (order : List ℕ) : List OAuthMove :=
  order.mapIdx fun n i => .serve i (sampleOAuthEnv n)

/-- The sample calls, served in this order. -/
def oauthPool (order : List ℕ) : OAuthPool :=
  (Pool.init (S := sampleOAuth) emptyOAuthStore).play
    (sampleOAuthCalls.map oauthCall ++ oauthServes order)

theorem oauthPool_append (order more : List ℕ) : oauthPool (order ++ more) = (oauthPool order).play
    (more.mapIdx fun n i => (.serve i (sampleOAuthEnv (n + order.length)) : OAuthMove)) := by
  unfold oauthPool oauthServes
  rw [List.mapIdx_append, ← List.append_assoc]
  exact Pool.play_append _ _ _

theorem oauthPool_run (order more : List ℕ) :
    Run sampleOAuth (IsOAuthCall sampleOAuthLibs) (oauthPool order) (oauthPool (order ++ more)) := by
  rw [oauthPool_append]
  exact Pool.play_run _ _

theorem oauthPool_reachable (order : List ℕ) :
    OAuthReachable sampleOAuthLibs (oauthPool order) := Pool.play_run _ _

/-- The calls of a sample run. -/
theorem oauthPool_plays (order : List ℕ) (i : ℕ) (call : OAuthCall)
    (hcall : sampleOAuthCalls[i]? = some call) :
    (oauthPool order).Plays i (call.program sampleOAuthLibs) :=
  Pool.calls_plays (S := sampleOAuth) hcall

/-- The nonces of a history. -/
def drawnNonces (evs : List OAuthEvent) : List String :=
  evs.filterMap fun
    | ⟨_, .generateNonce _, nonce⟩ => some nonce
    | _ => none

theorem noCollision_of_nodup {libs : OAuthLibs} {evs : List OAuthEvent} {secret : String → String}
    (h : ((drawnNonces evs).map fun nonce => libs.sha256Hex (secret nonce)).Nodup) :
    NoCollision libs evs secret := by
  have hmem : ∀ {i nonce}, Drew i evs nonce → nonce ∈ drawnNonces evs := fun hdrew =>
    List.mem_filterMap.mpr ⟨_, hdrew, rfl⟩
  exact fun i j nonce nonce' hi hj heq => List.inj_on_of_nodup_map h (hmem hi) (hmem hj) heq

attribute [irreducible] oauthPool sampleClientId

end Microticket

import Microticket.CodeSafety
import Microticket.Path
import Microticket.RowItems
import Mathlib.Algebra.Order.Ring.Nat

/-! # Half rows

Every row that the methods create is complete, and every update but one needs a row to update, so
that an update that comes after the row was deleted fails.  The exception is
`increment_login_code_attempts`, which has no condition: after a delete it leaves a row that has
only its `email` and its `attempts`, and no `get_login_code` of that email succeeds until the row
is replaced or deleted.

`no_half_rows` is about any programs at all that call the methods: as long as an attempt is only
counted on a row that exists, every row of every version of the tables can be read, and no read
fails.  `verify_auth_code` reads the row in one request and counts the attempt in another;
`attempt_after_redeem` is a run of two such calls that leaves half a row.  What the resolvers do
to these rows, calls of the methods do (`code_rows`). -/

namespace Microticket

open Interleaving Tables Hydration

/-! ### What the readers need -/

section columns

def textColumn (required : Bool) (name : String) : Column :=
  ⟨name, required, fun | .s _ => true | _ => false⟩

def numberColumn (required : Bool) (name : String) : Column :=
  ⟨name, required, fun | .n value => value < 2 ^ 63 | _ => false⟩

def flagColumn (required : Bool) (name : String) : Column :=
  ⟨name, required, fun | .bool _ => true | _ => false⟩

/-- A text that `MembershipRole::parse` takes. -/
def roleColumn : Column :=
  ⟨"role", true, fun | .s value => (MembershipRole.parse value).isSome | _ => false⟩

/-- What the `TryInto` of the record type reads. -/
def RowTable.schema : RowTable → Schema
  | loginCode => [textColumn true "email", textColumn true "code_hash",
      numberColumn true "expires_at", numberColumn false "attempts",
      numberColumn true "last_sent_at"]
  | userToken => [textColumn true "id", textColumn true "token_hash", textColumn true "user_id",
      numberColumn true "created_at", numberColumn true "expires_at",
      numberColumn false "last_used_at"]
  | oauthGrant => [textColumn true "id", textColumn true "user_id", textColumn true "client_id",
      textColumn false "client_name", textColumn true "redirect_uri", textColumn true "resource",
      textColumn true "scope", textColumn true "access_token_hash",
      numberColumn true "access_expires_at", textColumn true "refresh_token_hash",
      numberColumn true "refresh_expires_at", numberColumn true "expires_at",
      numberColumn true "created_at", numberColumn false "last_used_at"]
  | apiToken => [textColumn true "id", textColumn true "instance_id", textColumn true "name",
      textColumn true "token_hash", flagColumn true "enabled", numberColumn true "created_at",
      textColumn true "created_by_user_id", numberColumn false "last_used_at"]
  | membership => [roleColumn, textColumn true "id", textColumn true "user_id",
      textColumn true "instance_id", flagColumn false "notify_new_ticket",
      flagColumn false "notify_assigned_to_me", flagColumn false "notify_assigned_to_me_updated",
      flagColumn false "notify_unassigned_updated",
      flagColumn false "notify_assigned_to_others_updated"]
  | webauthnCredential => [textColumn true "id", textColumn true "user_id", textColumn true "name",
      textColumn true "passkey", numberColumn true "created_at", numberColumn false "last_used_at"]
  | ephemeralState => [textColumn true "id", textColumn true "kind", textColumn true "payload",
      numberColumn true "expires_at"]

variable {σ : Schema} {item : Item} {name missing text : String} {r flag : Bool} {n : ℕ}

@[simp] theorem textColumn_name : (textColumn r name).name = name := rfl

@[simp] theorem textColumn_accepts : (textColumn r name).accepts (.s text) := rfl

@[simp] theorem textColumn_takes : (textColumn r name).Takes (some (.s text)) := rfl

@[simp] theorem textColumn_takes_none : (textColumn false name).Takes none := rfl

@[simp] theorem numberColumn_name : (numberColumn r name).name = name := rfl

@[simp] theorem numberColumn_accepts : (numberColumn r name).accepts (.n n) ↔ n < 2 ^ 63 :=
  decide_eq_true_iff

@[simp] theorem numberColumn_takes : (numberColumn r name).Takes (some (.n n)) ↔ n < 2 ^ 63 :=
  decide_eq_true_iff

@[simp] theorem numberColumn_takes_none : (numberColumn false name).Takes none := rfl

@[simp] theorem flagColumn_name : (flagColumn r name).name = name := rfl

@[simp] theorem flagColumn_accepts : (flagColumn r name).accepts (.bool flag) := rfl

@[simp] theorem flagColumn_takes : (flagColumn r name).Takes (some (.bool flag)) := rfl

@[simp] theorem flagColumn_takes_none : (flagColumn false name).Takes none := rfl

@[simp] theorem roleColumn_name : roleColumn.name = "role" := rfl

@[simp] theorem MembershipRole.parse_asStr (role : MembershipRole) :
    parse role.asStr = some role := by
  cases role <;> decide

@[simp] theorem roleColumn_accepts {role : MembershipRole} :
    roleColumn.accepts (.s role.asStr) := by
  show (MembershipRole.parse role.asStr).isSome
  rw [MembershipRole.parse_asStr]
  rfl

@[simp] theorem roleColumn_takes {role : MembershipRole} :
    roleColumn.Takes (some (.s role.asStr)) := roleColumn_accepts

/-- A field that the reader gets, with a value if it needs one. -/
def Gets {α : Type} (r : Bool) (field : Except String (Option α)) : Prop :=
  ∃ value, field = .ok value ∧ (r = true → value.isSome)

theorem gets_field {α : Type} {c : Column} {field : Except String (Option α)} (h : σ.Fits item)
    (hc : c ∈ σ) (hnone : item.attribute c.name = none → field = .ok none)
    (hsome : ∀ value, item.attribute c.name = some value → c.accepts value →
      ∃ a, field = .ok (some a)) : Gets c.required field := by
  have htakes := h c hc
  cases hvalue : item.attribute c.name with
  | none =>
      rw [hvalue] at htakes
      have hoptional : c.required = false := htakes
      refine ⟨none, hnone hvalue, fun hr => ?_⟩
      rw [hoptional] at hr
      cases hr
  | some value =>
      rw [hvalue] at htakes
      obtain ⟨a, ha⟩ := hsome value hvalue htakes
      exact ⟨some a, ha, fun _ => rfl⟩

theorem gets_string (h : σ.Fits item) (hc : textColumn r name ∈ σ) :
    Gets r (stringField item name) := by
  refine gets_field h hc (fun hnone => ?_) fun value hvalue haccepts => ?_
  · have habsent : item.attribute name = none := hnone
    rw [stringField, habsent]
  · have hstored : item.attribute name = some value := hvalue
    cases value with
    | s text => exact ⟨text, by rw [stringField, hstored]⟩
    | _ => cases haccepts

theorem gets_i64 (h : σ.Fits item) (hc : numberColumn r name ∈ σ) :
    Gets r (i64Field item name) := by
  refine gets_field h hc (fun hnone => ?_) fun value hvalue haccepts => ?_
  · have habsent : item.attribute name = none := hnone
    rw [i64Field, habsent]
  · have hstored : item.attribute name = some value := hvalue
    cases value with
    | n number =>
        have hfits : number < 2 ^ 63 := of_decide_eq_true haccepts
        exact ⟨number, by rw [i64Field, hstored]; exact if_pos hfits⟩
    | _ => cases haccepts

theorem gets_bool (h : σ.Fits item) (hc : flagColumn r name ∈ σ) :
    Gets r (boolField item name) := by
  refine gets_field h hc (fun hnone => ?_) fun value hvalue haccepts => ?_
  · have habsent : item.attribute name = none := hnone
    rw [boolField, habsent]
  · have hstored : item.attribute name = some value := hvalue
    cases value with
    | bool flag => exact ⟨flag, by rw [boolField, hstored]⟩
    | _ => cases haccepts

/-- A row without an optional field, or with one of the right type. -/
theorem Gets.ok {α : Type} {field : Except String (Option α)} (h : Gets r field) :
    ∃ value, field = .ok value := by
  obtain ⟨value, hvalue, -⟩ := h
  exact ⟨value, hvalue⟩

theorem Gets.required {α : Type} {field : Except String (Option α)} (h : Gets true field) :
    ∃ a, required field missing = .ok a := by
  obtain ⟨value, rfl, hsome⟩ := h
  obtain ⟨a, rfl⟩ := Option.isSome_iff_exists.mp (hsome rfl)
  exact ⟨a, rfl⟩

theorem id_ok (h : σ.Fits item) (hc : textColumn true "id" ∈ σ) :
    ∃ a, Hydration.id item = .ok a := by
  have htakes : (textColumn true "id").Takes (item.attribute "id") := h _ hc
  unfold Hydration.id
  cases hvalue : item.attribute "id" with
  | none =>
      rw [hvalue] at htakes
      cases htakes
  | some value =>
      rw [hvalue] at htakes
      cases value with
      | s text => exact ⟨text, rfl⟩
      | _ => cases htakes

theorem role_ok (h : σ.Fits item) (hc : roleColumn ∈ σ) :
    ∃ text role, Hydration.required (stringField item "role") missing = .ok text ∧
      MembershipRole.parse text = some role := by
  have htakes : roleColumn.Takes (item.attribute "role") := h _ hc
  unfold stringField
  cases hvalue : item.attribute "role" with
  | none =>
      rw [hvalue] at htakes
      cases htakes
  | some value =>
      rw [hvalue] at htakes
      cases value with
      | s text =>
          obtain ⟨role, hrole⟩ := Option.isSome_iff_exists.mp htakes
          exact ⟨text, role, rfl, hrole⟩
      | _ => cases htakes

theorem ok_bind {α β : Type} {x : Except String α} {f : α → Except String β}
    (hx : ∃ a, x = .ok a) (hf : ∀ a, x = .ok a → ∃ b, f a = .ok b) : ∃ b, (x >>= f) = .ok b := by
  obtain ⟨a, rfl⟩ := hx
  exact hf a rfl

/-- An item with what the reader needs becomes a record. -/
theorem RowTable.tryInto_ok {table : RowTable} (h : table.schema.Fits item) :
    ∃ record, table.tryInto item = .ok record := by
  have htext : ∀ {r name}, textColumn r name ∈ table.schema → Gets r (stringField item name) :=
    fun hc => gets_string h hc
  have hnumber : ∀ {r name}, numberColumn r name ∈ table.schema → Gets r (i64Field item name) :=
    fun hc => gets_i64 h hc
  have hflag : ∀ {r name}, flagColumn r name ∈ table.schema → Gets r (boolField item name) :=
    fun hc => gets_bool h hc
  cases table with
  | loginCode =>
      refine ok_bind (htext (by simp [schema])).required fun _ _ => ?_
      refine ok_bind (htext (by simp [schema])).required fun _ _ => ?_
      refine ok_bind (hnumber (by simp [schema])).required fun _ _ => ?_
      refine ok_bind (hnumber (r := false) (by simp [schema])).ok fun _ _ => ?_
      refine ok_bind (hnumber (by simp [schema])).required fun _ _ => ?_
      exact ⟨_, rfl⟩
  | userToken =>
      refine ok_bind (id_ok h (by simp [schema])) fun _ _ => ?_
      refine ok_bind (htext (by simp [schema])).required fun _ _ => ?_
      refine ok_bind (htext (by simp [schema])).required fun _ _ => ?_
      refine ok_bind (hnumber (by simp [schema])).required fun _ _ => ?_
      refine ok_bind (hnumber (by simp [schema])).required fun _ _ => ?_
      refine ok_bind (hnumber (r := false) (by simp [schema])).ok fun _ _ => ?_
      exact ⟨_, rfl⟩
  | oauthGrant =>
      refine ok_bind (id_ok h (by simp [schema])) fun _ _ => ?_
      refine ok_bind (htext (by simp [schema])).required fun _ _ => ?_
      refine ok_bind (htext (by simp [schema])).required fun _ _ => ?_
      refine ok_bind (htext (r := false) (by simp [schema])).ok fun _ _ => ?_
      refine ok_bind (htext (by simp [schema])).required fun _ _ => ?_
      refine ok_bind (htext (by simp [schema])).required fun _ _ => ?_
      refine ok_bind (htext (by simp [schema])).required fun _ _ => ?_
      refine ok_bind (htext (by simp [schema])).required fun _ _ => ?_
      refine ok_bind (hnumber (by simp [schema])).required fun _ _ => ?_
      refine ok_bind (htext (by simp [schema])).required fun _ _ => ?_
      refine ok_bind (hnumber (by simp [schema])).required fun _ _ => ?_
      refine ok_bind (hnumber (by simp [schema])).required fun _ _ => ?_
      refine ok_bind (hnumber (by simp [schema])).required fun _ _ => ?_
      refine ok_bind (hnumber (r := false) (by simp [schema])).ok fun _ _ => ?_
      exact ⟨_, rfl⟩
  | apiToken =>
      refine ok_bind (id_ok h (by simp [schema])) fun _ _ => ?_
      refine ok_bind (htext (by simp [schema])).required fun _ _ => ?_
      refine ok_bind (htext (by simp [schema])).required fun _ _ => ?_
      refine ok_bind (htext (by simp [schema])).required fun _ _ => ?_
      refine ok_bind (hflag (by simp [schema])).required fun _ _ => ?_
      refine ok_bind (hnumber (by simp [schema])).required fun _ _ => ?_
      refine ok_bind (htext (by simp [schema])).required fun _ _ => ?_
      refine ok_bind (hnumber (r := false) (by simp [schema])).ok fun _ _ => ?_
      exact ⟨_, rfl⟩
  | membership =>
      obtain ⟨text, role, htext', hrole⟩ := role_ok h (by simp [schema])
      refine ok_bind ⟨text, htext'⟩ fun text' heq => ?_
      obtain rfl : text = text' := Except.ok.inj (htext'.symm.trans heq)
      rw [hrole]
      refine ok_bind ⟨role, rfl⟩ fun _ _ => ?_
      refine ok_bind (id_ok h (by simp [schema])) fun _ _ => ?_
      refine ok_bind (htext (by simp [schema])).required fun _ _ => ?_
      refine ok_bind (htext (by simp [schema])).required fun _ _ => ?_
      refine ok_bind (hflag (r := false) (by simp [schema])).ok fun _ _ => ?_
      refine ok_bind (hflag (r := false) (by simp [schema])).ok fun _ _ => ?_
      refine ok_bind (hflag (r := false) (by simp [schema])).ok fun _ _ => ?_
      refine ok_bind (hflag (r := false) (by simp [schema])).ok fun _ _ => ?_
      refine ok_bind (hflag (r := false) (by simp [schema])).ok fun _ _ => ?_
      exact ⟨_, rfl⟩
  | webauthnCredential =>
      refine ok_bind (id_ok h (by simp [schema])) fun _ _ => ?_
      refine ok_bind (htext (by simp [schema])).required fun _ _ => ?_
      refine ok_bind (htext (by simp [schema])).required fun _ _ => ?_
      refine ok_bind (htext (by simp [schema])).required fun _ _ => ?_
      refine ok_bind (hnumber (by simp [schema])).required fun _ _ => ?_
      refine ok_bind (hnumber (r := false) (by simp [schema])).ok fun _ _ => ?_
      exact ⟨_, rfl⟩
  | ephemeralState =>
      refine ok_bind (id_ok h (by simp [schema])) fun _ _ => ?_
      refine ok_bind (htext (by simp [schema])).required fun _ _ => ?_
      refine ok_bind (htext (by simp [schema])).required fun _ _ => ?_
      refine ok_bind (hnumber (by simp [schema])).required fun _ _ => ?_
      exact ⟨_, rfl⟩

end columns

/-! ### What the methods write -/

/-- Every row of every table has what its reader needs. -/
def RowDb.Whole (d : RowDb) : Prop := ∀ table : RowTable, table.schema.Whole (d table)

/-- The numbers that a call passes in and the method stores. -/
def RowOp.stamps : RowOp → List ℕ
  | .putLoginCode _ _ expiresAt now => [expiresAt, now]
  | .createUserToken _ _ expiresAt | .putEphemeralState _ _ _ expiresAt => [expiresAt]
  | .createOAuthGrant grant => [grant.accessExpiresAt, grant.refreshExpiresAt, grant.expiresAt,
      grant.createdAt] ++ grant.lastUsedAt.toList
  | .updateOAuthGrant _ (.rotate _ _ accessExpiresAt _ refreshExpiresAt) =>
      [accessExpiresAt, refreshExpiresAt]
  | .updateOAuthGrant _ (.touchLastUsed now) => [now]
  | _ => []

/-- An attempt is counted on a row, whose count stays in an `i64`. -/
def RowOp.CountsOnRow (d : RowDb) : RowOp → Prop
  | .incrementLoginCodeAttempts email => ∃ item, (d .loginCode).lookup email = some item ∧
      item.number "attempts" + 1 < 2 ^ 63
  | _ => True

section writes
variable {d d' : RowDb} {e : RowEnv} {op : RowOp} {table : RowTable} {request : WriteRequest}

/-- The settings of a membership are flags. -/
theorem patch_accepted {patch : NotificationSettingsPatch} :
    ∀ field ∈ patch.sets, RowTable.membership.schema.Accepts field.1 field.2 := by
  have hflag : ∀ {name : String} {value : Option Bool}, name ≠ "role" → name ≠ "id" →
      name ≠ "user_id" → name ≠ "instance_id" →
      ∀ field ∈ Item.optional name AttributeValue.bool value,
        RowTable.membership.schema.Accepts field.1 field.2 := by
    intro name value hrole hid huser hinstance field hfield
    cases value with
    | none => cases hfield
    | some flag =>
        obtain rfl := List.mem_singleton.mp hfield
        simp [RowTable.schema, hrole.symm, hid.symm, huser.symm, hinstance.symm]
  intro field hfield
  unfold NotificationSettingsPatch.sets at hfield
  simp only [List.mem_append] at hfield
  rcases hfield with (((hfield | hfield) | hfield) | hfield) | hfield <;>
    exact hflag (by decide) (by decide) (by decide) (by decide) field hfield

/-- What a method writes is what the reader of the row needs. -/
theorem RowOp.request_keeps (hnow : userTokenExpiresAt e.now < 2 ^ 63)
    (hstamps : ∀ n ∈ op.stamps, n < 2 ^ 63) (hcount : op.CountsOnRow d)
    (h : op.request e = some (table, request)) : request.Keeps table.schema (d table) := by
  have hclock : e.now < 2 ^ 63 := lt_of_le_of_lt (Nat.le_add_right _ _) hnow
  cases op with
  | putLoginCode email codeHash expiresAt now =>
      cases h
      have hfits : expiresAt < 2 ^ 63 ∧ now < 2 ^ 63 := by simpa [-Nat.reducePow, RowOp.stamps] using hstamps
      simp [-Nat.reducePow, WriteRequest.Keeps, RowTable.schema, Item.attribute_cons, hfits]
  | incrementLoginCodeAttempts email =>
      cases h
      obtain ⟨item, hrow, hattempts⟩ := hcount
      refine ⟨.inl (by rw [hrow]; rfl), fun _ hfield => absurd hfield List.not_mem_nil, ?_⟩
      intro name increment hadd
      cases hadd
      rw [rowOf, hrow]
      simp [-Nat.reducePow, RowTable.schema, hattempts]
  | createUserToken tokenHash userId expiresAt =>
      cases h
      have hfits : expiresAt < 2 ^ 63 := by simpa [-Nat.reducePow, RowOp.stamps] using hstamps
      simp [-Nat.reducePow, WriteRequest.Keeps, RowTable.schema, Item.attribute_cons, hfits, hclock]
  | updateUserToken id =>
      cases h
      simp [-Nat.reducePow, WriteRequest.Keeps, RowTable.schema, hclock, hnow]
  | createOAuthGrant grant =>
      cases h
      obtain ⟨haccess, hrefresh, hexpires, hcreated, hused⟩ : grant.accessExpiresAt < 2 ^ 63 ∧
          grant.refreshExpiresAt < 2 ^ 63 ∧ grant.expiresAt < 2 ^ 63 ∧ grant.createdAt < 2 ^ 63 ∧
          ∀ n ∈ grant.lastUsedAt, n < 2 ^ 63 := by
        simpa [-Nat.reducePow, RowOp.stamps] using hstamps
      have hlast : (numberColumn false "last_used_at").Takes
          (grant.lastUsedAt.map AttributeValue.n) := by
        cases hvalue : grant.lastUsedAt with
        | none => rfl
        | some n => exact numberColumn_takes.mpr (hused n hvalue)
      simp [-Nat.reducePow, WriteRequest.Keeps, RowTable.schema, Item.attribute_cons, Item.attribute_optional,
        haccess, hrefresh, hexpires, hcreated, hlast]
  | updateOAuthGrant id change =>
      cases change with
      | rotate expected accessHash accessExpiresAt refreshHash refreshExpiresAt =>
          cases h
          have hfits : accessExpiresAt < 2 ^ 63 ∧ refreshExpiresAt < 2 ^ 63 := by
            simpa [-Nat.reducePow, RowOp.stamps] using hstamps
          simp [-Nat.reducePow, WriteRequest.Keeps, RowTable.schema, hfits]
      | touchLastUsed now =>
          cases h
          have hfits : now < 2 ^ 63 := by simpa [-Nat.reducePow, RowOp.stamps] using hstamps
          simp [-Nat.reducePow, WriteRequest.Keeps, RowTable.schema, hfits]
  | createApiToken id instanceId name tokenHash createdByUserId =>
      cases h
      simp [-Nat.reducePow, WriteRequest.Keeps, RowTable.schema, Item.attribute_cons, hclock]
  | updateApiToken id change =>
      cases change with
      | fields name enabled =>
          cases h
          simp [-Nat.reducePow, WriteRequest.Keeps, RowTable.schema]
      | touchLastUsed =>
          cases h
          simp [-Nat.reducePow, WriteRequest.Keeps, RowTable.schema, hclock]
  | createMembership userId instanceId role =>
      cases h
      simp [-Nat.reducePow, WriteRequest.Keeps, RowTable.schema, Item.attribute_cons]
  | updateMembershipRole id role =>
      cases h
      simp [-Nat.reducePow, WriteRequest.Keeps, RowTable.schema]
  | updateMembershipNotificationSettings id patch =>
      simp only [RowOp.request] at h
      split at h
      · cases h
      · cases h
        refine ⟨.inr ⟨"id", List.mem_singleton_self _⟩, patch_accepted, ?_⟩
        intro _ _ hadd
        cases hadd
  | createWebauthnCredential id userId name passkeyJson =>
      cases h
      simp [-Nat.reducePow, WriteRequest.Keeps, RowTable.schema, Item.attribute_cons, hclock]
  | updateWebauthnCredential id change =>
      cases change with
      | rename name =>
          cases h
          simp [-Nat.reducePow, WriteRequest.Keeps, RowTable.schema]
      | touchLastUsed passkeyJson =>
          cases h
          simp [-Nat.reducePow, WriteRequest.Keeps, RowTable.schema, hclock]
  | putEphemeralState id kind payload expiresAt =>
      cases h
      have hfits : expiresAt < 2 ^ 63 := by simpa [-Nat.reducePow, RowOp.stamps] using hstamps
      simp [-Nat.reducePow, WriteRequest.Keeps, RowTable.schema, Item.attribute_cons, hfits]
  | deleteLoginCode | deleteUserToken | deleteOAuthGrant | deleteApiToken | deleteMembership
  | deleteWebauthnCredential | deleteEphemeralState =>
      cases h
      exact trivial
  | _ => cases h

/-- A request that the table takes changes its rows. -/
theorem RowDb.change_ok {t : Table String Item} (hrequest : op.request e = some (table, request))
    (happly : request.apply table.hash (d table) = .ok t) :
    d.change e op = .ok (Function.update d table t) := by
  rw [RowDb.change, hrequest]
  simp only [happly]

theorem RowDb.change_whole (hd : d.Whole) (hnow : userTokenExpiresAt e.now < 2 ^ 63)
    (hstamps : ∀ n ∈ op.stamps, n < 2 ^ 63) (hcount : op.CountsOnRow d)
    (h : d.change e op = .ok d') : d'.Whole := by
  unfold RowDb.change at h
  split at h
  · cases h
    exact hd
  · rename_i table request hrequest
    split at h
    · rename_i t ht
      cases h
      intro table'
      have hkeeps := RowOp.request_keeps hnow hstamps hcount hrequest
      by_cases htable : table' = table
      · subst htable
        rw [Function.update_self]
        exact WriteRequest.apply_whole hkeeps (hd table') ht
      · rw [Function.update_of_ne htable]
        exact hd table'
    · cases h
    · cases h

end writes

/-! ### Reads -/

/-- The answer is no hydration error. -/
def Hydrated {α : Type} (answer : Except DbError α) : Prop :=
  ∀ message, answer ≠ .error (.hydration message)

section reads
variable {d later : RowDb} {table : RowTable} {item : Item} {key name value : String} {α : Type}
variable {fault : Fault} {answer : Except DbError α}

theorem Hydrated.ok {a : α} : Hydrated (.ok a : Except DbError α) := fun _ h => nomatch h

theorem RowTable.hydrateItem_ok (h : table.schema.Fits item) :
    ∃ record, table.hydrateItem item = .ok record := by
  obtain ⟨record, hrecord⟩ := table.tryInto_ok h
  exact ⟨record, by rw [hydrateItem, hrecord]⟩

theorem RowDb.hydrated_getItem (hd : d.Whole) : Hydrated (d.getItem table key) := by
  unfold RowDb.getItem
  cases hrow : (d table).lookup key with
  | none => exact Hydrated.ok
  | some item =>
      obtain ⟨record, hrecord⟩ := table.hydrateItem_ok (hd table hrow)
      simp only [hrecord]
      exact Hydrated.ok

theorem RowDb.hydrated_queryAll (hd : d.Whole) : Hydrated (d.queryAll table name value) := by
  have hrows : ∀ entry ∈ d.listed table name value, table.schema.Fits entry.2 := by
    intro entry hentry
    exact hd table (AList.mem_lookup_iff.mpr (List.mem_of_mem_filter hentry))
  have hall : ∀ entries : List (Sigma fun _ : String => Item),
      (∀ entry ∈ entries, table.schema.Fits entry.2) →
      ∃ records, (entries.mapM fun entry => table.hydrateItem entry.2) = .ok records := by
    intro entries
    induction entries with
    | nil => exact fun _ => ⟨[], rfl⟩
    | cons entry entries ih =>
        intro hfits
        rw [List.forall_mem_cons] at hfits
        obtain ⟨record, hrecord⟩ := table.hydrateItem_ok hfits.1
        obtain ⟨records, hrecords⟩ := ih hfits.2
        refine ⟨record :: records, ?_⟩
        rw [List.mapM_cons, hrecord, hrecords]
        rfl
  obtain ⟨records, hrecords⟩ := hall _ hrows
  rw [RowDb.queryAll, hrecords]
  exact Hydrated.ok

theorem RowDb.hydrated_getUserTokenByHash (hlater : later.Whole) {tokenHash : String} :
    Hydrated (d.getUserTokenByHash later tokenHash) := by
  unfold RowDb.getUserTokenByHash
  split
  · exact Hydrated.ok
  · exact RowDb.hydrated_getItem hlater
  · exact fun _ h => nomatch h

theorem Hydrated.read (h : Hydrated answer) : Hydrated (fault.read answer) := by
  unfold Fault.read
  split
  · exact h
  · exact fun _ h => nomatch h

theorem RowDb.hydrated_change {e : RowEnv} {op : RowOp} : Hydrated (d.change e op) := by
  intro message h
  unfold RowDb.change at h
  split at h
  · cases h
  · split at h
    · cases h
    · have hfailure : op.conditionFailure = .hydration message := Except.error.inj h
      cases op <;> cases hfailure
    · cases h

theorem Hydrated.commit {D : Type} {readOnly : Bool} {r : Replica D} {change : Except DbError D}
    {a : α} (h : Hydrated change) : Hydrated (fault.commit readOnly r change a).1 := by
  intro message hres
  unfold Fault.commit at hres
  split at hres
  · cases hres
  · split at hres
    · cases hres
    · cases change with
      | error err => exact h message (congrArg Except.error (Except.error.inj hres))
      | ok d =>
          have hanswer : (if fault = .none then .ok a else .error connectionLost) =
              (.error (.hydration message) : Except DbError α) := hres
          split at hanswer <;> cases hanswer

end reads

/-! ### Runs -/

section runs
variable {readOnly : Bool} {ε α : Type} {Start : Prog RowOp RowOp.Res ε α → Prop}

theorem RowStore.serve_state (readOnly : Bool) (s : RowStore) (e : RowEnv) (op : RowOp) :
    (s.serve e readOnly op).2 = s ∨
      ∃ d, s.now.change e op = .ok d ∧ (s.serve e readOnly op).2 = Replica.write s d := by
  cases op <;> first | exact .inl rfl | exact Fault.commit_state

/-- A call on whole tables fails with no hydration error. -/
theorem RowStore.serve_hydrated {s : RowStore} (hs : ∀ d, s.Committed d → d.Whole) (e : RowEnv)
    (op : RowOp) : Hydrated (s.serve e readOnly op).1 := by
  have hnow : s.now.Whole := hs _ s.committed_now
  have hseen : ∀ lag, (s.seen lag).Whole := fun lag => hs _ (s.committed_seen lag)
  cases op with
  | getLoginCode | getWebauthnCredential | getEphemeralState =>
      show Hydrated (e.fault.read _)
      exact (RowDb.hydrated_getItem (hseen _)).read
  | getOAuthGrant | getApiToken =>
      show Hydrated (e.fault.read _)
      exact (RowDb.hydrated_getItem hnow).read
  | getUserTokenByHash =>
      show Hydrated (e.fault.read _)
      exact (RowDb.hydrated_getUserTokenByHash (hseen _)).read
  | listOAuthGrantsByUser | listApiTokensByInstance | listMembershipsByUser
  | listMembershipsByInstance | listWebauthnCredentialsByUser =>
      show Hydrated (e.fault.read _)
      exact (RowDb.hydrated_queryAll (hseen _)).read
  | _ => exact Hydrated.commit RowDb.hydrated_change

/-- No row is missing what its reader needs, and no read failed for that reason. -/
structure NoHalfRows (t : Trace (rowService readOnly)) : Prop where
  rows : ∀ d, Replica.Committed t.state d → ∀ table key item, (d table).lookup key = some item →
    ∃ record, table.tryInto item = .ok record
  reads : ∀ ev ∈ t.events, Hydrated ev.res

/-- The numbers that are stored fit in an `i64`, and an attempt is only counted on a row. -/
def StoresWhole (d : RowDb) (op : RowOp) : Prop :=
  (∀ n ∈ op.stamps, n < 2 ^ 63) ∧ op.CountsOnRow d

/-- Whatever programs call the methods, in whatever order: as long as an attempt is only counted on
a row that exists, there are no half rows. -/
theorem no_half_rows {c : Pool (rowService readOnly) ε α}
    (h : GuardedRun (rowService readOnly) Start
      (fun c ev => StoresWhole (Replica.now c.trace.state) ev.op)
      (Pool.init ⟨fun _ => ∅, []⟩) c) : NoHalfRows c.trace := by
  have hwhole : (∀ d, Replica.Committed c.trace.state d → RowDb.Whole d) ∧
      ∀ ev ∈ c.trace.events, Hydrated ev.res := by
    refine GuardedRun.keeps (K := fun t => (∀ d, Replica.Committed t.state d → RowDb.Whole d) ∧
      ∀ ev ∈ t.events, Hydrated ev.res) (fun {c₁ c₂ ev} _ hserves _ hok hK => ?_) h ?_
    · obtain ⟨hrows, hreads⟩ := hK
      obtain ⟨e, k, -, hnow, htrace, hres⟩ := hserves.trace
      rw [htrace]
      constructor
      · intro d hd
        have hserved := RowStore.serve_state readOnly c₁.trace.state e ev.op
        rcases hserved with hsame | ⟨d', hd', hwritten⟩
        · have hstate : (c₁.trace.serve ev.caller e ev.op).state = c₁.trace.state := hsame
          rw [hstate] at hd
          exact hrows d hd
        · have hstate : (c₁.trace.serve ev.caller e ev.op).state =
              Replica.write c₁.trace.state d' := hwritten
          rw [hstate] at hd
          rcases List.mem_cons.mp hd with rfl | hd
          · exact RowDb.change_whole (hrows _ (Replica.committed_now _)) hnow hok.1 hok.2 hd'
          · exact hrows d hd
      · intro ev' hev'
        rw [Trace.serve_events] at hev'
        rcases List.mem_append.mp hev' with hev' | hev'
        · exact hreads ev' hev'
        · rw [List.mem_singleton.mp hev']
          exact RowStore.serve_hydrated hrows e ev.op
    · refine ⟨fun d hd table => ?_, fun ev hev => absurd hev List.not_mem_nil⟩
      rw [List.mem_singleton.mp hd]
      exact Schema.whole_empty
  exact ⟨fun d hd table key item hrow => table.tryInto_ok (hwhole.1 d hd table hrow), hwhole.2⟩

end runs

/-! ### The rows of login codes -/

/-- A row of `login_code` as it is stored. -/
def LoginRow.item (email : String) : LoginRow → Item
  | .complete record => [("email", .s record.email), ("code_hash", .s record.codeHash),
      ("expires_at", .n record.expiresAt), ("attempts", .n record.attempts),
      ("last_sent_at", .n record.lastSentAt)]
  | .attemptsOnly attempts => [("email", .s email), ("attempts", .n attempts)]

/-- The rows of `login_code` have the attributes that the resolvers' tables say. -/
def SameLoginCodes (d : CodeDb) (r : RowDb) : Prop :=
  ∀ email, (d.loginCodes.lookup email).map (fun row => (row.item email).attribute) =
    ((r .loginCode).lookup email).map Item.attribute

section refinement
variable {d d' : CodeDb} {r r' : RowDb} {email : String} {item : Item} {row : LoginRow}

theorem SameLoginCodes.insert (h : SameLoginCodes d r)
    (hitem : item.attribute = (row.item email).attribute) :
    SameLoginCodes { d with loginCodes := d.loginCodes.insert email row }
      (Function.update r .loginCode ((r .loginCode).insert email item)) := by
  intro email'
  rw [Function.update_self, Table.lookup_insert_if, Table.lookup_insert_if]
  split
  · rename_i hemail
    rw [Option.map_some, Option.map_some, hitem, hemail]
  · exact h email'

theorem SameLoginCodes.erase (h : SameLoginCodes d r) :
    SameLoginCodes { d with loginCodes := d.loginCodes.erase email }
      (Function.update r .loginCode ((r .loginCode).erase email)) := by
  intro email'
  rw [Function.update_self, Table.lookup_erase_if, Table.lookup_erase_if]
  split
  · rfl
  · exact h email'

/-- `ADD attempts :one` on a row, and on a missing one. -/
theorem addAttempt_item (h : item.attribute = (row.item email).attribute) :
    ∃ item', item.addNumber "attempts" 1 = some item' ∧
      item'.attribute = ((CodeDb.LoginRow.addAttempt (some row)).item email).attribute := by
  have hnumber : ∃ n, item.attribute "attempts" = some (.n n) ∧
      ((CodeDb.LoginRow.addAttempt (some row)).item email).attribute =
        fun name =>
          if name = "attempts" then some (.n (n + 1)) else (row.item email).attribute name := by
    cases row with
    | complete record =>
        refine ⟨record.attempts, by rw [h]; rfl, ?_⟩
        funext name
        simp only [CodeDb.LoginRow.addAttempt, LoginRow.item, Item.attribute_cons]
        split_ifs <;> simp_all
    | attemptsOnly attempts =>
        refine ⟨attempts, by rw [h]; rfl, ?_⟩
        funext name
        simp only [CodeDb.LoginRow.addAttempt, LoginRow.item, Item.attribute_cons]
        split_ifs <;> simp_all
  obtain ⟨n, hattempts, hrow⟩ := hnumber
  refine ⟨item.put "attempts" (some (.n (n + 1))), ?_, ?_⟩
  · have hcount : item.number "attempts" = n := by rw [Item.number, hattempts]
    rw [Item.addNumber, hattempts, hcount]
  · funext name
    rw [hrow, Item.attribute_put, h]

/-- What a resolver's request does to the rows of login codes, a method does to the items. -/
theorem SameLoginCodes.change (h : SameLoginCodes d r) {e : CodeEnv} {op : CodeOp} (e' : RowEnv)
    (hd : d.change e op = some d') : SameLoginCodes d' r ∨
      ∃ rowOp r', (rowOp.request e').isSome ∧ r.change e' rowOp = .ok r' ∧
        SameLoginCodes d' r' := by
  cases op with
  | putLoginCode email codeHash expiresAt now =>
      cases hd
      exact .inr ⟨.putLoginCode email codeHash expiresAt now, _, rfl, rfl, h.insert rfl⟩
  | deleteLoginCode email =>
      cases hd
      exact .inr ⟨.deleteLoginCode email, _, rfl, rfl, h.erase⟩
  | incrementLoginCodeAttempts email code =>
      cases hd
      have hadded : ∃ item',
          Item.addNumber (((r .loginCode).lookup email).getD [("email", .s email)]) "attempts" 1 =
            some item' ∧ item'.attribute =
            ((CodeDb.LoginRow.addAttempt (d.loginCodes.lookup email)).item email).attribute := by
        have hrow := h email
        cases hitem : (r .loginCode).lookup email with
        | none =>
            rw [hitem, Option.map_none, Option.map_eq_none_iff] at hrow
            rw [hrow]
            refine ⟨_, rfl, ?_⟩
            funext name
            simp only [CodeDb.LoginRow.addAttempt, LoginRow.item, Option.getD_none,
              Item.attribute_put, Item.attribute_cons, Item.number]
            split_ifs <;> simp_all
        | some item =>
            rw [hitem, Option.map_some] at hrow
            obtain ⟨row, hlookup, hsame⟩ := Option.map_eq_some_iff.mp hrow
            rw [hlookup, Option.getD_some]
            exact addAttempt_item hsame.symm
      obtain ⟨item', hitem', hsame⟩ := hadded
      refine .inr ⟨.incrementLoginCodeAttempts email,
        Function.update r .loginCode ((r .loginCode).insert email item'), rfl, ?_, h.insert hsame⟩
      have happly : (WriteRequest.update email [] [] (some ("attempts", 1))).apply "email"
          (r .loginCode) = .ok ((r .loginCode).insert email item') := by
        simp only [WriteRequest.apply, List.all_nil, if_true, Item.updated, hitem', Option.map_some]
        rfl
      exact RowDb.change_ok rfl happly
  | createUserToken | putEphemeralState | deleteEphemeralState =>
      cases hd
      exact .inl h
  | _ => cases hd

/-- A write that is not lost is committed. -/
theorem RowStore.serve_write {s : RowStore} {e : RowEnv} {op : RowOp} (hfault : e.fault = .none)
    (hrequest : (op.request e).isSome) (h : s.now.change e op = .ok r) :
    (s.serve e false op).2 = Replica.write s r := by
  have hcommit : ∀ {α : Type} (answer : α),
      (e.fault.commit false s (s.now.change e op) answer).2 = Replica.write s r := by
    intro α answer
    rw [h, hfault]
    rfl
  cases op <;> first | exact hcommit _ | cases hrequest

/-- The state after a program that calls one method. -/
theorem Run.method (c : Pool (rowService false) Empty Unit) (op : RowOp) (e : RowEnv)
    (he : userTokenExpiresAt e.now < 2 ^ 63) :
    ∃ c', Run (rowService false) (fun _ => True) c c' ∧
      c'.trace.state = (RowStore.serve c.trace.state e false op).2 := by
  have hstart : Step (rowService false) (fun _ => True) c
      ⟨c.trace, c.threads ++ [Prog.call op fun _ => .done ()]⟩ := .start _ trivial
  have hnext : (c.threads ++ [Prog.call op fun _ => .done ()])[c.threads.length]? =
      some (.call op fun _ => .done ()) := List.getElem?_concat_length
  exact ⟨_, (Relation.ReflTransGen.single hstart).tail
    (Step.serve c.threads.length e hnext he), rfl⟩

/-- The clock of a sample call. -/
def sampleRowEnv : RowEnv := ⟨1782777600, "t1", 0, 0, .none⟩

/-- Whatever the resolvers do to the rows of login codes, calls of the methods do. -/
theorem code_rows {readOnly reliable : Bool} {Start : Prog CodeOp CodeOp.Res Empty Unit → Prop}
    {c : Pool (codeService readOnly reliable) Empty Unit}
    (h : Run (codeService readOnly reliable) Start (Pool.init ⟨⟨⟨∅, ∅, []⟩, []⟩, []⟩) c) :
    ∃ c' : Pool (rowService false) Empty Unit,
      Run (rowService false) (fun _ => True) (Pool.init ⟨fun _ => ∅, []⟩) c' ∧
      SameLoginCodes (CodeStore.db c.trace.state).now (Replica.now c'.trace.state) := by
  refine Run.keeps (P := fun _ => True) (K := fun t => ∃ c' : Pool (rowService false) Empty Unit,
    Run (rowService false) (fun _ => True) (Pool.init ⟨fun _ => ∅, []⟩) c' ∧
      SameLoginCodes (CodeStore.db t.state).now (Replica.now c'.trace.state))
    (fun {c₁ c₂ ev} _ hserves _ hK => ?_) h (fun _ _ => trivial) ⟨_, .refl, fun email => rfl⟩
  obtain ⟨c', hrun, hsame⟩ := hK
  obtain ⟨e, k, -, -, htrace, -⟩ := hserves.trace
  rw [htrace]
  rcases CodeStore.serve_state readOnly reliable c₁.trace.state e ev.op with
    hstate | ⟨-, d, hd, hstate⟩
  · refine ⟨c', hrun, ?_⟩
    show SameLoginCodes ((CodeStore.serve c₁.trace.state e readOnly reliable ev.op).2).db.now _
    rw [hstate]
    exact hsame
  · have hnow : ((c₁.trace.serve ev.caller e ev.op).state : CodeStore).db.now = d := by
      show ((CodeStore.serve c₁.trace.state e readOnly reliable ev.op).2).db.now = d
      rw [hstate]
      rfl
    rw [hnow]
    rcases hsame.change sampleRowEnv hd with hsame | ⟨rowOp, r, hrequest, hr, hsame⟩
    · exact ⟨c', hrun, hsame⟩
    · obtain ⟨c'', hrun', hstate'⟩ := Run.method c' rowOp sampleRowEnv (by decide)
      refine ⟨c'', hrun.trans hrun', ?_⟩
      rw [hstate', RowStore.serve_write rfl hrequest hr]
      exact hsame

end refinement

/-! ### Sample runs -/

/-- Two calls redeem the code at once: both read the row, and the second counts its attempt after
the first has deleted the row. -/
def redeemedTwice : List CodeMove :=
  codeSent ++ [verifyCall "000042", verifyCall "000042"] ++ codeServes 1 "n1" [11, 12] ++
    codeServes 2 "n2" [21, 22] ++ codeServes 1 "n1" [13, 14, 15] ++ codeServes 2 "n2" [23]

/-- Two calls of `verify_auth_code` leave half a row, which no call can read. -/
theorem attempt_after_redeem :
    (∃ c, CodeReachable sampleCodeLibs false true c ∧
      (CodeStore.db c.trace.state).now.loginCodes.lookup "ann@example.org" =
        some (.attemptsOnly 1) ∧
      (CodeStore.db c.trace.state).now.getLoginCode "ann@example.org" =
        .error (.hydration "LoginCode missing code_hash")) ∧
    ¬ ∀ c : Pool (rowService false) Empty Unit,
      Run (rowService false) (fun _ => True) (Pool.init ⟨fun _ => ∅, []⟩) c →
        NoHalfRows c.trace := by
  have hhalf : (CodeStore.db (codePool redeemedTwice).trace.state).now.loginCodes.lookup
      "ann@example.org" = some (.attemptsOnly 1) := by decide +kernel
  refine ⟨⟨_, codePool_reachable redeemedTwice, hhalf, ?_⟩, fun hclaim => ?_⟩
  · rw [CodeDb.getLoginCode, hhalf]
  · obtain ⟨c, hrun, hsame⟩ := code_rows (codePool_reachable redeemedTwice)
    have hstored := hsame "ann@example.org"
    rw [hhalf, Option.map_some] at hstored
    obtain ⟨item, hitem, hattributes⟩ := Option.map_eq_some_iff.mp hstored.symm
    obtain ⟨record, hrecord⟩ := (hclaim c hrun).rows _ (Replica.committed_now _) .loginCode _ item hitem
    have hemail : item.attribute "email" = some (.s "ann@example.org") := by rw [hattributes]; rfl
    have hmissing : item.attribute "code_hash" = none := by rw [hattributes]; rfl
    have hfails : Hydration.loginCode item = .error "LoginCode missing code_hash" := by
      unfold Hydration.loginCode stringField
      rw [hemail, hmissing]
      rfl
    exact nomatch hfails.symm.trans hrecord

/-- A code is stored, tried, and deleted, and its row is read in between. -/
def redeemedOnce : Prog RowOp RowOp.Res Empty Unit :=
  .call (.putLoginCode "ann@example.org" "h1" 1782778200 1782777600) fun _ =>
  .call (.incrementLoginCodeAttempts "ann@example.org") fun _ =>
  .call (.getLoginCode "ann@example.org") fun _ =>
  .call (.deleteLoginCode "ann@example.org") fun _ =>
  .call (.getLoginCode "ann@example.org") fun _ => .done ()

abbrev RowMove : Type := Move (rowService false) (fun p : Prog RowOp RowOp.Res Empty Unit =>
  p = redeemedOnce)

/-- Two of them, one after the other. -/
def redeemedApart : List RowMove :=
  [.start _ rfl] ++ List.replicate 5 (.serve 0 sampleRowEnv) ++
    [.start _ rfl] ++ List.replicate 5 (.serve 1 sampleRowEnv)

def noRows : Pool (rowService false) Empty Unit := Pool.init ⟨fun _ => ∅, []⟩

def storesWholeTest (d : RowDb) (op : RowOp) : Bool :=
  op.stamps.all (· < 2 ^ 63) && match op with
    | .incrementLoginCodeAttempts email =>
        ((d .loginCode).lookup email).any fun item => item.number "attempts" + 1 < 2 ^ 63
    | _ => true

theorem storesWhole_of_test {d : RowDb} {op : RowOp} (h : storesWholeTest d op) :
    StoresWhole d op := by
  obtain ⟨hstamps, hcount⟩ := Bool.and_eq_true_iff.mp h
  constructor
  · intro n hn
    exact of_decide_eq_true (List.all_eq_true.mp hstamps n hn)
  · cases op with
    | incrementLoginCodeAttempts email =>
        obtain ⟨item, hrow, hattempts⟩ := Option.any_eq_true _ _ |>.mp hcount
        exact ⟨item, hrow, of_decide_eq_true hattempts⟩
    | _ => exact trivial

theorem no_half_rows_sample : NoHalfRows (noRows.play redeemedApart).trace ∧
    (noRows.play redeemedApart).trace.events.length = 10 := by
  have hguarded : GuardedRun (rowService false) (fun p => p = redeemedOnce)
      (fun c ev => StoresWhole (Replica.now c.trace.state) ev.op) (Pool.init ⟨fun _ => ∅, []⟩)
      (noRows.play redeemedApart) :=
    Pool.play_guarded (fun _ _ => storesWhole_of_test)
      (show noRows.guarded (fun c ev => storesWholeTest (Replica.now c.trace.state) ev.op)
        redeemedApart by decide +kernel)
  exact ⟨no_half_rows hguarded, by decide +kernel⟩

end Microticket

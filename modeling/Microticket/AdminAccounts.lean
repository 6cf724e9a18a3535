import Microticket.AdminMutations
import Microticket.Contract

/-! # Accounts and memberships are unique

`create_user`, `update_user` and `add_member` read whether the email or the membership is taken, and
then put or update a row without a condition.  As long as this is still so when the write is served,
no two users share an email and no user is twice a member of an instance; then the look-up of an email
never finds two users, and a removal that deletes the user's row in the instance leaves no other one
(`accounts_unique`).  Two calls that both read before either writes break all of this
(`accounts_duplicated`). -/

namespace Microticket

open Interleaving Tables

/-! ### Uniqueness -/

/-- No two users share an email, and no two memberships the user and the instance. -/
structure AdminDb.Unique (d : AdminDb) : Prop where
  users : d.users.UniqueBy UserRow.email
  members : d.memberships.UniqueBy fun row => (row.userId, row.instanceId)

/-- The user is a member of the instance. -/
def AdminDb.Member (d : AdminDb) (userId instanceId : String) : Prop :=
  ∃ id row, d.memberships.lookup id = some row ∧ row.userId = userId ∧ row.instanceId = instanceId

/-- The look-up of an email finds at most one user. -/
theorem AdminDb.Unique.userIdByEmail {d : AdminDb} (h : d.Unique) (email : String) :
    ∃ found, d.userIdByEmail email = .ok found := by
  have hle := h.users.keys_length_le_one email
  unfold AdminDb.userIdByEmail AdminDb.idsWhere
  generalize (List.filter (fun entry => entry.2.email == email) d.users.entries).map Sigma.fst =
    ids at hle ⊢
  cases ids with
  | nil => exact ⟨none, rfl⟩
  | cons id rest =>
      cases rest with
      | nil => exact ⟨some id, rfl⟩
      | cons id' rest =>
          simp only [List.length_cons] at hle
          omega

/-- An update that keeps the column, or gives it a value that no other row has. -/
theorem updateRow_unique {α β : Type} {column : α → β} {what id : String} {t t' : Table String α}
    {f : α → α} (h : t.UniqueBy column) (hupdate : AdminDb.updateRow what t id f = .ok t')
    (hf : ∀ row, t.lookup id = some row → column (f row) = column row ∨
      ∀ id' row', t.lookup id' = some row' → column row' = column (f row) → id' = id) :
    t'.UniqueBy column := by
  obtain ⟨row, hrow, rfl⟩ := updateRow_ok hupdate
  refine h.insert fun id' row' hrow' heq => ?_
  rcases hf row hrow with hsame | hfree
  · exact h hrow' hrow (heq.trans hsame)
  · exact hfree id' row' hrow' heq

/-! ### The condition -/

section runs
variable {readOnly : Bool} {calls : ℕ → AdminCall} {libs : CodeLibs}

/-- The call removes the user from the instance. -/
def AdminCall.removes (userId instanceId : String) : AdminCall → Bool
  | .removeMember _ instanceId' userId' => userId' == userId && instanceId' == instanceId
  | _ => false

/-- What a call has found is still so when its write is served: an email that is given to a user is
not that of another one, a user who is made a member is none, and a removal of a member deletes the
user's row in the instance. -/
def StillSo (calls : ℕ → AdminCall) (t : Trace (adminService readOnly)) : AdminEvent → Prop
  | ⟨_, .createUser email _, _⟩ =>
      ∀ id row, (adminDb t).users.lookup id = some row → row.email ≠ email
  | ⟨_, .updateUser id (.setEmail email), _⟩ =>
      ∀ id' row, (adminDb t).users.lookup id' = some row → row.email = email → id' = id
  | ⟨_, .createMembership userId instanceId _, _⟩ => ¬ (adminDb t).Member userId instanceId
  | ⟨i, .deleteMembership id, _⟩ => ∀ userId instanceId, (calls i).removes userId instanceId →
      (adminDb t).Member userId instanceId → ∃ row, (adminDb t).memberships.lookup id = some row ∧
        row.userId = userId ∧ row.instanceId = instanceId
  | _ => True

/-- Whether the user has been removed since the last request to make it a member. -/
def removedBy (calls : ℕ → AdminCall) (userId instanceId : String) (removed : Bool) :
    AdminEvent → Bool
  | ⟨i, .deleteMembership _, .ok ()⟩ => removed || (calls i).removes userId instanceId
  | ⟨_, .createMembership userId' instanceId' _, _⟩ =>
      removed && !(userId' == userId && instanceId' == instanceId)
  | _ => removed

/-- A removal of the user from the instance was answered, and no request to make it a member was
served since. -/
def removed (calls : ℕ → AdminCall) (userId instanceId : String) (evs : List AdminEvent) : Bool :=
  evs.foldl (removedBy calls userId instanceId) false

/-- What holds along a run whose steps meet the condition. -/
structure Accounts (calls : ℕ → AdminCall) (t : Trace (adminService readOnly)) : Prop where
  unique : ∀ {d}, t.state.db.Committed d → d.Unique
  gone : ∀ {userId instanceId}, removed calls userId instanceId t.events →
    ¬ (adminDb t).Member userId instanceId

/-! ### What one request keeps -/

/-- A write keeps the uniqueness. -/
theorem unique_change {t : Trace (adminService readOnly)} {e : AdminEnv} {i : ℕ} {op : AdminOp}
    {r : op.Res} {d : AdminDb} (h : (adminDb t).Unique) (hok : StillSo calls t ⟨i, op, r⟩)
    (hd : (adminDb t).change e op = .ok d) : d.Unique := by
  cases op with
  | createUser email name =>
      obtain rfl := Except.ok.inj hd
      exact ⟨h.users.insert fun id row hrow heq => absurd heq (hok id row hrow), h.members⟩
  | updateUser id change =>
      obtain ⟨users, husers, rfl⟩ := except_map_ok hd
      refine ⟨updateRow_unique h.users husers fun row _ => ?_, h.members⟩
      cases change with
      | fields name enabled => exact .inl rfl
      | setEmail email => exact .inr hok
  | createMembership userId instanceId role =>
      obtain rfl := Except.ok.inj hd
      refine ⟨h.users, h.members.insert fun id row hrow heq => ?_⟩
      have huser := congrArg Prod.fst heq
      have hinst := congrArg Prod.snd heq
      exact absurd ⟨id, row, hrow, huser, hinst⟩ hok
  | deleteMembership id =>
      obtain rfl := Except.ok.inj hd
      exact ⟨h.users, h.members.erase id⟩
  | updateMembershipRole id role =>
      obtain ⟨memberships, hmemberships, rfl⟩ := except_map_ok hd
      exact ⟨h.users, updateRow_unique h.members hmemberships fun row _ => .inl rfl⟩
  | createInstance | updateInstance | createApiToken | updateApiToken | createProject
  | updateProject =>
      obtain ⟨table, -, rfl⟩ := except_map_ok hd
      exact ⟨h.users, h.members⟩
  | _ =>
      obtain rfl := Except.ok.inj hd
      exact ⟨h.users, h.members⟩

/-- A write makes a user a member only if it is a request to do so. -/
theorem member_change {d d' : AdminDb} {e : AdminEnv} {op : AdminOp} {userId instanceId : String}
    (hd : d.change e op = .ok d') (hop : ∀ role, op ≠ .createMembership userId instanceId role)
    (h : d'.Member userId instanceId) : d.Member userId instanceId := by
  obtain ⟨id, row, hrow, huser, hinst⟩ := h
  cases op with
  | createMembership userId' instanceId' role =>
      obtain rfl := Except.ok.inj hd
      rw [Table.lookup_insert_if] at hrow
      split at hrow
      · obtain rfl := Option.some.inj hrow
        have huser' : userId' = userId := huser
        have hinst' : instanceId' = instanceId := hinst
        exact absurd (by rw [huser', hinst']) (hop role)
      · exact ⟨id, row, hrow, huser, hinst⟩
  | deleteMembership id' =>
      obtain rfl := Except.ok.inj hd
      exact ⟨id, row, Table.lookup_of_erase _ _ _ _ hrow, huser, hinst⟩
  | updateMembershipRole id' role =>
      obtain ⟨memberships, hmemberships, rfl⟩ := except_map_ok hd
      obtain ⟨row', hrow', rfl⟩ := updateRow_ok hmemberships
      rw [Table.lookup_insert_if] at hrow
      split at hrow
      · rename_i hid
        obtain rfl := Option.some.inj hrow
        exact ⟨id', row', hrow', huser, hinst⟩
      · exact ⟨id, row, hrow, huser, hinst⟩
  | updateUser | createInstance | updateInstance | createApiToken | updateApiToken | createProject
  | updateProject =>
      obtain ⟨table, -, rfl⟩ := except_map_ok hd
      exact ⟨id, row, hrow, huser, hinst⟩
  | _ =>
      obtain rfl := Except.ok.inj hd
      exact ⟨id, row, hrow, huser, hinst⟩

/-- The deletion of the only row of the user in the instance. -/
theorem not_member_erase {d : AdminDb} (h : d.Unique) {id userId instanceId : String}
    (hrow : d.Member userId instanceId → ∃ row, d.memberships.lookup id = some row ∧
      row.userId = userId ∧ row.instanceId = instanceId) :
    ¬ ({ d with memberships := d.memberships.erase id } : AdminDb).Member userId instanceId := by
  rintro ⟨id', row', hrow', huser', hinst'⟩
  have hmem' := Table.lookup_of_erase _ _ _ _ hrow'
  obtain ⟨row, hrow, huser, hinst⟩ := hrow ⟨id', row', hmem', huser', hinst'⟩
  have hsame : id' = id := 
    h.members hmem' hrow (Prod.ext (huser'.trans huser.symm) (hinst'.trans hinst.symm))
  rw [hsame, Table.lookup_erase_if, if_pos rfl] at hrow'
  cases hrow'

/-- One more request of a history. -/
theorem removed_concat (userId instanceId : String) (evs : List AdminEvent) (ev : AdminEvent) :
    removed calls userId instanceId (evs ++ [ev]) =
      removedBy calls userId instanceId (removed calls userId instanceId evs) ev := by
  simp [removed]

/-- What a request that ends in `removed` is. -/
theorem removedBy_true {userId instanceId : String} {was : Bool} {ev : AdminEvent}
    (h : removedBy calls userId instanceId was ev) :
    (was ∧ ∀ role, ev.op ≠ .createMembership userId instanceId role) ∨
      ∃ id, ev = ⟨ev.caller, .deleteMembership id, .ok ()⟩ ∧
        (calls ev.caller).removes userId instanceId := by
  unfold removedBy at h
  split at h
  · rename_i i id
    rw [Bool.or_eq_true] at h
    refine h.imp (fun hwas => ⟨hwas, fun role => ?_⟩) fun hremoves => ⟨id, rfl, hremoves⟩
    exact AdminOp.noConfusion
  · rename_i i userId' instanceId' role r
    rw [Bool.and_eq_true] at h
    refine .inl ⟨h.1, fun role' heq => ?_⟩
    obtain ⟨rfl, rfl, -⟩ := AdminOp.createMembership.inj heq
    simp at h
  · rename_i hother
    refine .inl ⟨h, fun role heq => ?_⟩
    obtain ⟨i, op, r⟩ := ev
    simp only at heq
    subst heq
    exact hother i userId instanceId role r rfl

/-- A request whose condition holds keeps the accounts unique, and who was removed stays so. -/
theorem Accounts.serve {t : Trace (adminService readOnly)} (h : Accounts calls t) {e : AdminEnv}
    {i : ℕ} {op : AdminOp} (hok : StillSo calls t ⟨i, op, (t.state.serve e readOnly op).1⟩) :
    Accounts calls (t.serve i e op) := by
  have hnow : (adminDb t).Unique := h.unique t.state.db.committed_now
  have hstate := AdminStore.serve_state t.state e readOnly op
  constructor
  · intro d hd
    change ((t.state.serve e readOnly op).2).db.Committed d at hd
    rcases hstate with hsame | ⟨-, d', hd', hwritten⟩
    · rw [hsame] at hd
      exact h.unique hd
    · rw [hwritten] at hd
      rcases List.mem_cons.mp hd with rfl | hd
      · exact unique_change hnow hok hd'
      · exact h.unique hd
  · intro userId instanceId hremoved
    rw [Trace.serve_events, removed_concat] at hremoved
    show ¬ ((t.state.serve e readOnly op).2).db.now.Member userId instanceId
    rcases removedBy_true hremoved with ⟨hwas, hop⟩ | ⟨id, hev, hremoves⟩
    · intro hmember
      refine h.gone hwas ?_
      rcases hstate with hsame | ⟨-, d, hd, hwritten⟩
      · rw [hsame] at hmember
        exact hmember
      · rw [hwritten] at hmember
        exact member_change hd hop hmember
    · obtain ⟨rfl, hres⟩ := Event.mk.inj hev |>.2
      obtain ⟨d, hd, hwritten⟩ := AdminStore.write_ok (eq_of_heq hres)
      obtain rfl := Except.ok.inj hd
      have hnone := not_member_erase hnow (hok userId instanceId hremoves)
      have hstate' : (t.state.serve e readOnly (.deleteMembership id)).2 = _ := hwritten
      rw [hstate']
      exact hnone

/-! ### Runs -/

/-- A removal that succeeds has had a deletion answered. -/
def Deleted (i : ℕ) (h : List AdminEvent) : Prop :=
  ∃ id, (⟨i, .deleteMembership id, .ok ()⟩ : AdminEvent) ∈ h

theorem sends_removeMember {i : ℕ} {auth : Option AuthInfo} {instanceId userId : String} :
    Sends i (fun _ _ => True) (fun r h => (∃ inst, r = .ok inst) → Deleted i h)
      (removeMember auth instanceId userId) [] := by
  have hguard : Sends i (fun _ _ => True) (fun _ _ => True) (guardSuperuser auth) [] := by
    unfold guardSuperuser
    split
    · unfold Prog.ensure
      split
      · trivial
      · trivial
    · trivial
  refine Sends.bind hguard (fun _ h _ => ?_) fun _ _ _ ⟨_, hok⟩ => nomatch hok
  refine ⟨trivial, fun found => ?_⟩
  cases found with
  | error e => exact fun ⟨_, hok⟩ => nomatch hok
  | ok found =>
  cases found with
  | none => exact fun ⟨_, hok⟩ => nomatch hok
  | some inst =>
  refine ⟨trivial, fun rows => ?_⟩
  cases rows with
  | error e => exact fun ⟨_, hok⟩ => nomatch hok
  | ok rows =>
  refine Sends.ofOption (fun membership _ => ?_) fun _ ⟨_, hok⟩ => nomatch hok
  refine ⟨trivial, fun answer => ?_⟩
  cases answer with
  | error e => exact fun ⟨_, hok⟩ => nomatch hok
  | ok u => exact fun _ => ⟨membership.id, List.mem_append_right _ (List.mem_singleton_self _)⟩

/-- No request among these makes the user a member of the instance. -/
def NotAdded (userId instanceId : String) (evs : List AdminEvent) : Prop :=
  ∀ ev ∈ evs, ∀ role, ev.op ≠ .createMembership userId instanceId role

/-- Who was removed stays so while no request makes it a member. -/
theorem removed_append {userId instanceId : String} {evs more : List AdminEvent}
    (h : removed calls userId instanceId evs) (hmore : NotAdded userId instanceId more) :
    removed calls userId instanceId (evs ++ more) := by
  induction more generalizing evs with
  | nil =>
      rw [List.append_nil]
      exact h
  | cons ev more ih =>
      rw [List.append_cons]
      refine ih ?_ fun ev' hev' => hmore ev' (List.mem_cons_of_mem _ hev')
      rw [removed_concat]
      unfold removedBy
      split
      · rw [h]
        rfl
      · rename_i i userId' instanceId' role r
        have hother := hmore _ List.mem_cons_self role
        rw [h, Bool.true_and, Bool.not_eq_true', Bool.and_eq_false_iff]
        by_contra hsame
        simp only [not_or, Bool.not_eq_false, beq_iff_eq] at hsame
        obtain ⟨rfl, rfl⟩ := hsame
        exact hother rfl
      · exact h

/-- A removal whose deletion was answered after the requests `before`. -/
theorem removed_of_deleted {i : ℕ} {userId instanceId : String} {before after : List AdminEvent}
    (hcall : (calls i).removes userId instanceId) (hbefore : ∀ ev ∈ before, ev.caller ≠ i)
    (hafter : NotAdded userId instanceId after) (h : Deleted i (ownEvents i (before ++ after))) :
    removed calls userId instanceId (before ++ after) := by
  obtain ⟨id, hmem⟩ := h
  have hmem := (mem_ownEvents.mp hmem).1
  have hmem : (⟨i, .deleteMembership id, .ok ()⟩ : AdminEvent) ∈ after :=
    (List.mem_append.mp hmem).resolve_left fun hold => hbefore _ hold rfl
  obtain ⟨pre, post, rfl⟩ := List.append_of_mem hmem
  have hdeleted : removed calls userId instanceId
      ((before ++ pre) ++ [⟨i, .deleteMembership id, .ok ()⟩]) := by
    rw [removed_concat]
    exact Bool.or_eq_true_iff.mpr (.inr hcall)
  have hpost : NotAdded userId instanceId post := fun ev hev =>
    hafter ev (List.mem_append_right _ (List.mem_cons_of_mem _ hev))
  have happend := removed_append hdeleted hpost
  rw [List.append_assoc, List.append_assoc] at happend
  rw [show pre ++ _ :: post = pre ++ ([⟨i, .deleteMembership id, .ok ()⟩] ++ post) from rfl]
  exact happend

/-- A call removes one user from one instance. -/
theorem AdminCall.removes_unique {call : AdminCall} {userId instanceId userId' instanceId' : String}
    (h : call.removes userId instanceId) (h' : call.removes userId' instanceId') :
    userId = userId' ∧ instanceId = instanceId' := by
  cases call with
  | removeMember auth inst user =>
      simp only [AdminCall.removes, Bool.and_eq_true, beq_iff_eq] at h h'
      exact ⟨h.1.symm.trans h'.1, h.2.symm.trans h'.2⟩
  | _ => cases h

/-- A check of `StillSo`, for requests other than a change of an email. -/
def stillSoTest (calls : ℕ → AdminCall) (c : Pool (adminService readOnly) Error AdminReply) :
    AdminEvent → Bool
  | ⟨_, .createUser email _, _⟩ =>
      (adminDb c.trace).users.entries.all fun entry => entry.2.email ≠ email
  | ⟨_, .updateUser _ _, _⟩ => false
  | ⟨_, .createMembership userId instanceId _, _⟩ =>
      (adminDb c.trace).memberships.entries.all fun entry =>
        ¬ (entry.2.userId = userId ∧ entry.2.instanceId = instanceId)
  | ⟨i, .deleteMembership id, _⟩ =>
      ((adminDb c.trace).memberships.lookup id).any fun row =>
        (calls i).removes row.userId row.instanceId
  | _ => true

theorem stillSo_of_test {c : Pool (adminService readOnly) Error AdminReply} {ev : AdminEvent}
    (h : stillSoTest calls c ev) : StillSo calls c.trace ev := by
  obtain ⟨i, op, r⟩ := ev
  cases op with
  | createUser email name =>
      intro id row hrow
      have hone := List.all_eq_true.mp h ⟨id, row⟩ (AList.mem_lookup_iff.mp hrow)
      exact of_decide_eq_true hone
  | updateUser id change => cases h
  | createMembership userId instanceId role =>
      rintro ⟨id, row, hrow, hmember⟩
      have hone := List.all_eq_true.mp h ⟨id, row⟩ (AList.mem_lookup_iff.mp hrow)
      exact of_decide_eq_true hone hmember
  | deleteMembership id =>
      intro userId instanceId hremoves _
      have htest : ((adminDb c.trace).memberships.lookup id).any
          (fun row => (calls i).removes row.userId row.instanceId) := h
      obtain ⟨row, hrow, hcall⟩ := Option.any_eq_true _ _ |>.mp htest
      obtain ⟨huser, hinst⟩ := AdminCall.removes_unique hremoves hcall
      exact ⟨row, hrow, huser.symm, hinst.symm⟩
  | _ => trivial

end runs

/-! ### Sample runs -/

def sampleAdminLibs : CodeLibs where
  toLowercase := id
  debug s := "\"" ++ s ++ "\""
  sha256Hex := id

abbrev AdminMove : Type := Move (adminService false) (IsAdminCall sampleAdminLibs)

def adminCall (call : AdminCall) : AdminMove := .start _ ⟨call, rfl⟩

def sampleSuperuser : Option AuthInfo := some (.user "root" [] true)

/-- Two administrators create the user `ann@example.org`, add it to the instance `i1`, and one removes
it. -/
def sampleAdmins : ℕ → AdminCall
  | 0 => .createInstance sampleSuperuser "Help" "help" none none false .support
  | 1 => .createUser sampleSuperuser "ann@example.org" "Ann"
  | 2 => .createUser sampleSuperuser "ann@example.org" "Anna"
  | 3 => .addMember sampleSuperuser "i1" "u1" .agent
  | 4 => .addMember sampleSuperuser "i1" "u1" .owner
  | _ => .removeMember sampleSuperuser "i1" "u1"

/-- The choices of the sample runs: nothing fails, and reads are fresh. -/
def sampleAdminEnv (newId : String) : AdminEnv where
  now := 1782777600
  newId
  nonce := "n"
  lag := 0
  fault := .none

/-- The next `n` requests of call `i` are served. -/
def adminServes (i : ℕ) (newId : String) (n : ℕ) : List AdminMove :=
  List.replicate n (.serve i (sampleAdminEnv newId))

/-- The tables before the first call. -/
def noAccounts : AdminDb := ⟨∅, ∅, ∅, ∅, ∅⟩

theorem noAccounts_unique : noAccounts.Unique := by
  constructor <;> rintro k k' a a' ⟨⟩

def noAdmins : Pool (adminService false) Error AdminReply := Pool.init ⟨⟨noAccounts, []⟩⟩

def adminCalls : List AdminMove := (List.range 6).map fun i => adminCall (sampleAdmins i)

/-- All six calls have been made. -/
def adminsBegun : Pool (adminService false) Error AdminReply := noAdmins.play adminCalls

/-- One after the other. -/
def serialAdmins : List AdminMove :=
  adminServes 0 "i1" 2 ++ adminServes 1 "u1" 2 ++ adminServes 2 "u2" 1 ++ adminServes 3 "m1" 4 ++
    adminServes 4 "m2" 3 ++ adminServes 5 "x" 3

/-- Both administrators have read that there is no such user, and no such member. -/
def racingAdmins : List AdminMove :=
  adminServes 0 "i1" 2 ++ adminServes 1 "x" 1 ++ adminServes 2 "x" 1 ++ adminServes 1 "u1" 1 ++
    adminServes 2 "u2" 1 ++ adminServes 3 "x" 3 ++ adminServes 4 "x" 3 ++ adminServes 3 "m1" 1 ++
    adminServes 4 "m2" 1 ++ adminServes 5 "x" 3

theorem sampleAdmins_play {moves : List AdminMove}
    (hlen : (adminsBegun.play moves).threads.length = 6) (i : ℕ)
    (hi : i < (adminsBegun.play moves).threads.length) :
    (adminsBegun.play moves).Plays i ((sampleAdmins i).prog sampleAdminLibs) := by
  have hbegun : adminsBegun.threads =
      (List.range 6).map fun i => (sampleAdmins i).prog sampleAdminLibs := rfl
  have hevents : adminsBegun.trace.events = [] := rfl
  refine Run.plays (Pool.play_run _ moves) ?_ ?_
  · rw [hbegun, List.getElem?_map, List.getElem?_range (hlen ▸ hi)]
    rfl
  · rw [hevents]
    intro ev hev
    cases hev

/-- No request of a list makes anyone a member. -/
theorem notAdded_of_test {userId instanceId : String} {evs : List AdminEvent}
    (h : evs.all fun ev => match ev.op with
      | .createMembership .. => false
      | _ => true) : NotAdded userId instanceId evs := by
  intro ev hev role heq
  have hone := List.all_eq_true.mp h ev hev
  rw [heq] at hone
  cases hone

/-- The requests before and after the removal of the sample runs begins. -/
theorem removal_last (moves : List AdminMove) (n : ℕ)
    (h : ((adminsBegun.play moves).trace.events.take n).all (fun ev => ev.caller ≠ 5) ∧
      ((adminsBegun.play moves).trace.events.drop n).all fun ev => match ev.op with
        | .createMembership .. => false
        | _ => true) :
    (∀ ev ∈ (adminsBegun.play moves).trace.events.take n, ev.caller ≠ 5) ∧
      NotAdded "u1" "i1" ((adminsBegun.play moves).trace.events.drop n) :=
  ⟨fun ev hev => of_decide_eq_true (List.all_eq_true.mp h.1 ev hev), notAdded_of_test h.2⟩

end Microticket

import Microticket.AdminAccounts
import Microticket.AdminRequests

/-! # The project tool

`update_project` of `mcp/invoicing.rs` changes the fields it is passed: it reads the project in one
GraphQL run, lays the passed fields over it, and hands all six to `updateProject`, which replaces the
row's without a condition.  If every such write is served while the fields that the call was not passed
are still as it has read them, then a field has in the end the value of the one call that was passed
it, or the value it had before (`tool_keeps_others`).  A write of another call in between is undone
(`tool_overwrites`). -/

namespace Microticket

open Interleaving Tables RustText

/-! ### The tool -/

/-- The arguments of `update_project`: `none` if there is none, or not one of the right type. -/
structure ProjectArgs where
  id : Option String
  name : Option String
  clientName : Option String
  clientAbn : Option String
  clientAddress : Option String
  reference : Option String
  archived : Option Bool

/-- `pick`. -/
def pickField (passed current : Option String) : Option String :=
  match passed with
  | some "" => none
  | some s => some s
  | none => current

/-- The passed fields, laid over the current ones. -/
def ProjectArgs.input (args : ProjectArgs) (current : ProjectRow) : ProjectInput where
  name := args.name.getD current.name
  clientName := args.clientName.getD current.clientName
  clientAbn := pickField args.clientAbn current.clientAbn
  clientAddress := pickField args.clientAddress current.clientAddress
  reference := pickField args.reference current.reference

/-- `AuthRequirement::Authenticated`. -/
def guardSignedIn : Option AuthInfo → AdminProg Unit
  | some (.user ..) | some (.requester ..) => .done ()
  | _ => .fail (.api .unauthenticated "Must be authenticated")

/-- `Query::project`. -/
def projectQuery (auth : Option AuthInfo) (id : String) : AdminProg (Option ProjectRow) := do
  guardSignedIn auth
  match auth with
  | some (.user _ memberships _) =>
      match ← orAdminError (admin (.getProject id)) with
      | none => return none
      | some row =>
          if isMember memberships row.instanceId then
            let inst ← orAdminError (admin (.getInstance row.instanceId))
            return if inst.any fun inst => inst.kind == .invoicing then some row else none
          else return none
  | _ => throw (.forbidden "Must be authenticated as a user")

/-- `update_project` of the MCP server; a failure is its `ToolOutcome::Error`. -/
def updateProjectTool (auth : Option AuthInfo) (args : ProjectArgs) : AdminProg ProjectRow :=
  match args.id with
  | none => .fail (.other "Missing or invalid \"id\" argument")
  | some id => do
      match ← projectQuery auth id with
      | none => throw (.other "Project not found (or you are not a member of its instance)")
      | some current =>
          updateProject auth id (args.input current) (args.archived.getD current.archived)

/-! ### The system -/

/-- A call on the administrative tables: a mutation, or the tool. -/
inductive ProjectCall where
  | mutation (call : AdminCall)
  | tool (auth : Option AuthInfo) (args : ProjectArgs)

/-- The program of a call. -/
def ProjectCall.prog (libs : CodeLibs) : ProjectCall → AdminProg AdminReply
  | .mutation call => call.prog libs
  | .tool auth args => AdminProg.reply .project (updateProjectTool auth args)

/-- The programs that take part in a run. -/
def IsProjectCall (libs : CodeLibs) (p : AdminProg AdminReply) : Prop :=
  ∃ call : ProjectCall, p = call.prog libs

/-! ### The fields -/

/-- The editable fields of a project. -/
inductive ProjectField where
  | name
  | clientName
  | clientAbn
  | clientAddress
  | reference
  | archived
  deriving DecidableEq

/-- The value of a field. -/
inductive FieldValue where
  | text (text : Option String)
  | flag (flag : Bool)
  deriving DecidableEq

/-- The value of a field in these. -/
def ProjectFields.value (fields : ProjectFields) (archived : Bool) : ProjectField → FieldValue
  | .name => .text (some fields.name)
  | .clientName => .text (some fields.clientName)
  | .clientAbn => .text fields.clientAbn
  | .clientAddress => .text fields.clientAddress
  | .reference => .text fields.reference
  | .archived => .flag archived

/-- The value of a field of a row. -/
def ProjectRow.value (row : ProjectRow) : ProjectField → FieldValue
  | .name => .text (some row.name)
  | .clientName => .text (some row.clientName)
  | .clientAbn => .text row.clientAbn
  | .clientAddress => .text row.clientAddress
  | .reference => .text row.reference
  | .archived => .flag row.archived

/-- A text, as an optional field keeps it: trimmed, and absent if it is blank. -/
def tidy (s : String) : Option String := if (trim s).isEmpty then none else some (trim s)

/-- The value that a call of the tool is passed for a field. -/
def ProjectArgs.passes (args : ProjectArgs) : ProjectField → Option FieldValue
  | .name => args.name.map fun s => .text (some (trim s))
  | .clientName => args.clientName.map fun s => .text (some (trim s))
  | .clientAbn => args.clientAbn.map fun s => .text (tidy s)
  | .clientAddress => args.clientAddress.map fun s => .text (tidy s)
  | .reference => args.reference.map fun s => .text (tidy s)
  | .archived => args.archived.map .flag

/-- The value that `updateProject` is passed for a field: it is passed all of them. -/
def ProjectInput.passes (input : ProjectInput) (archived : Bool) : ProjectField → FieldValue
  | .name => .text (some (trim input.name))
  | .clientName => .text (some (trim input.clientName))
  | .clientAbn => .text (input.clientAbn.bind tidy)
  | .clientAddress => .text (input.clientAddress.bind tidy)
  | .reference => .text (input.reference.bind tidy)
  | .archived => .flag archived

/-- The value that a call is passed for a field of the project `id`. -/
def ProjectCall.sets (id : String) (field : ProjectField) : ProjectCall → Option FieldValue
  | .tool _ args => if args.id = some id then args.passes field else none
  | .mutation (.updateProject _ id' input archived) =>
      if id' = id then some (input.passes archived field) else none
  | .mutation _ => none

/-! ### Stored texts are trimmed -/

theorem tidy_tidy (s : String) : (tidy s).bind tidy = tidy s := by
  unfold tidy
  split
  · rfl
  · rename_i hfull
    rw [Option.bind_some, trim_trim, if_neg hfull]

/-- The texts of the row are as a write leaves them. -/
structure ProjectRow.Tidied (row : ProjectRow) : Prop where
  name : trim row.name = row.name
  clientName : trim row.clientName = row.clientName
  clientAbn : row.clientAbn.bind tidy = row.clientAbn
  clientAddress : row.clientAddress.bind tidy = row.clientAddress
  reference : row.reference.bind tidy = row.reference

theorem requireShort_ok {field raw v : String} {maxLen : ℕ} (h : requireShort field maxLen raw = .ok v) :
    v = trim raw := by
  unfold requireShort at h
  split at h
  · cases h
  · split at h
    · cases h
    · exact (Except.ok.inj h).symm

theorem normalizeProjectField_ok {field : String} {maxLen : ℕ} {raw v : Option String}
    (h : normalizeProjectField field maxLen raw = .ok v) : v = raw.bind tidy := by
  unfold normalizeProjectField at h
  split at h
  · exact (Except.ok.inj h).symm
  · rename_i text
    rw [Option.bind_some, tidy]
    split at h
    · rename_i hblank
      rw [if_pos hblank]
      exact (Except.ok.inj h).symm
    · rename_i hfull
      rw [if_neg hfull]
      split at h
      · cases h
      · exact (Except.ok.inj h).symm

theorem tidy_empty : tidy "" = none := rfl

attribute [irreducible] tidy

/-- What the checks make of an input. -/
structure ProjectInput.Made (input : ProjectInput) (fields : ProjectFields) : Prop where
  name : fields.name = trim input.name
  clientName : fields.clientName = trim input.clientName
  clientAbn : fields.clientAbn = input.clientAbn.bind tidy
  clientAddress : fields.clientAddress = input.clientAddress.bind tidy
  reference : fields.reference = input.reference.bind tidy

theorem ProjectInput.made_of_ok {input : ProjectInput} {fields : ProjectFields}
    (h : input.fields = .ok fields) : input.Made fields := by
  unfold ProjectInput.fields at h
  cases hname : requireProjectName input.name with
  | error e =>
      rw [hname] at h
      cases h
  | ok name =>
  cases hclient : requireProjectClientName input.clientName with
  | error e =>
      rw [hname, hclient] at h
      cases h
  | ok clientName =>
  cases habn : normalizeProjectField "clientAbn" maxInvoicingFieldLen input.clientAbn with
  | error e =>
      rw [hname, hclient, habn] at h
      cases h
  | ok clientAbn =>
  cases haddress : normalizeProjectField "clientAddress" maxInvoicingLongFieldLen
      input.clientAddress with
  | error e =>
      rw [hname, hclient, habn, haddress] at h
      cases h
  | ok clientAddress =>
  cases hreference : normalizeProjectField "reference" maxInvoicingFieldLen input.reference with
  | error e =>
      rw [hname, hclient, habn, haddress, hreference] at h
      cases h
  | ok reference =>
  rw [hname, hclient, habn, haddress, hreference] at h
  obtain rfl := Except.ok.inj h
  exact ⟨requireShort_ok hname, requireShort_ok hclient, normalizeProjectField_ok habn,
    normalizeProjectField_ok haddress, normalizeProjectField_ok hreference⟩

theorem ProjectInput.Made.value {input : ProjectInput} {fields : ProjectFields}
    (h : input.Made fields) (archived : Bool) (field : ProjectField) :
    fields.value archived field = input.passes archived field := by
  cases field with
  | name => simp only [ProjectFields.value, ProjectInput.passes, h.name]
  | clientName => simp only [ProjectFields.value, ProjectInput.passes, h.clientName]
  | clientAbn => simp only [ProjectFields.value, ProjectInput.passes, h.clientAbn]
  | clientAddress => simp only [ProjectFields.value, ProjectInput.passes, h.clientAddress]
  | reference => simp only [ProjectFields.value, ProjectInput.passes, h.reference]
  | archived => rfl

theorem bind_tidy_tidy (text : Option String) : (text.bind tidy).bind tidy = text.bind tidy := by
  cases text with
  | none => rfl
  | some s =>
      rw [Option.bind_some]
      exact tidy_tidy s

/-- Rows are written with texts that the checks have passed. -/
theorem ProjectInput.Made.tidied {input : ProjectInput} {fields : ProjectFields}
    (h : input.Made fields) {row : ProjectRow} (hname : row.name = fields.name)
    (hclient : row.clientName = fields.clientName) (habn : row.clientAbn = fields.clientAbn)
    (haddress : row.clientAddress = fields.clientAddress) (hreference : row.reference = fields.reference) :
    row.Tidied := by
  constructor
  · rw [hname, h.name, trim_trim]
  · rw [hclient, h.clientName, trim_trim]
  · rw [habn, h.clientAbn, bind_tidy_tidy]
  · rw [haddress, h.clientAddress, bind_tidy_tidy]
  · rw [hreference, h.reference, bind_tidy_tidy]

theorem pickField_tidy {passed current : Option String} (h : current.bind tidy = current) :
    (pickField passed current).bind tidy = (passed.map tidy).getD current := by
  unfold pickField
  split
  · rw [Option.map_some, Option.getD_some, tidy_empty, Option.bind_none]
  · rfl
  · exact h

/-- The merged input is passed the passed fields, and the current value of the others. -/
theorem ProjectArgs.input_passes (args : ProjectArgs) {current : ProjectRow} (h : current.Tidied)
    (field : ProjectField) :
    (args.input current).passes (args.archived.getD current.archived) field =
      (args.passes field).getD (current.value field) := by
  cases field with
  | name =>
      simp only [ProjectInput.passes, ProjectArgs.input, ProjectArgs.passes, ProjectRow.value]
      cases args.name with
      | none =>
          show FieldValue.text (some (trim current.name)) = .text (some current.name)
          rw [h.name]
      | some s => rfl
  | clientName =>
      simp only [ProjectInput.passes, ProjectArgs.input, ProjectArgs.passes, ProjectRow.value]
      cases args.clientName with
      | none =>
          show FieldValue.text (some (trim current.clientName)) = .text (some current.clientName)
          rw [h.clientName]
      | some s => rfl
  | clientAbn =>
      simp only [ProjectInput.passes, ProjectArgs.input, ProjectArgs.passes, ProjectRow.value]
      rw [pickField_tidy h.clientAbn]
      cases args.clientAbn <;> rfl
  | clientAddress =>
      simp only [ProjectInput.passes, ProjectArgs.input, ProjectArgs.passes, ProjectRow.value]
      rw [pickField_tidy h.clientAddress]
      cases args.clientAddress <;> rfl
  | reference =>
      simp only [ProjectInput.passes, ProjectArgs.input, ProjectArgs.passes, ProjectRow.value]
      rw [pickField_tidy h.reference]
      cases args.reference <;> rfl
  | archived =>
      simp only [ProjectInput.passes, ProjectArgs.passes, ProjectRow.value]
      cases args.archived <;> rfl

/-! ### The rows -/

/-- Every project is stored under its id, with tidied texts. -/
def AdminDb.ProjectsSound (d : AdminDb) : Prop :=
  ∀ id row, d.projects.lookup id = some row → row.id = id ∧ row.Tidied

/-- What a write makes of the row of a project. -/
inductive ProjectMove (d d' : AdminDb) (e : AdminEnv) (id : String) : AdminOp → Prop
  | same {op : AdminOp} (h : d'.projects.lookup id = d.projects.lookup id) : ProjectMove d d' e id op
  | create {instanceId : String} {fields : ProjectFields} (hnew : d.projects.lookup id = none)
      (hid : id = e.newId) (h : d'.projects.lookup id = some (newProject e instanceId fields)) :
      ProjectMove d d' e id (.createProject instanceId fields)
  | update {fields : ProjectFields} {archived : Bool} {row : ProjectRow}
      (hrow : d.projects.lookup id = some row)
      (h : d'.projects.lookup id = some (row.update e fields archived)) :
      ProjectMove d d' e id (.updateProject id fields archived)

theorem AdminDb.project_move {d d' : AdminDb} {e : AdminEnv} {op : AdminOp}
    (hd : d.change e op = .ok d') (id : String) : ProjectMove d d' e id op := by
  cases op with
  | createProject instanceId fields =>
      obtain ⟨projects, hprojects, rfl⟩ := except_map_ok hd
      obtain ⟨hnew, rfl⟩ := putNew_ok hprojects
      by_cases hid : id = e.newId
      · subst hid
        refine .create hnew rfl ?_
        rw [Table.lookup_insert_if, if_pos rfl]
      · refine .same ?_
        rw [Table.lookup_insert_if, if_neg hid]
  | updateProject id' fields archived =>
      obtain ⟨projects, hprojects, rfl⟩ := except_map_ok hd
      obtain ⟨row, hrow, rfl⟩ := updateRow_ok hprojects
      by_cases hid : id = id'
      · subst hid
        refine .update hrow ?_
        rw [Table.lookup_insert_if, if_pos rfl]
      · refine .same ?_
        rw [Table.lookup_insert_if, if_neg hid]
  | updateUser | updateMembershipRole | createInstance | updateInstance | createApiToken
  | updateApiToken =>
      obtain ⟨table, -, rfl⟩ := except_map_ok hd
      exact .same rfl
  | _ =>
      obtain rfl := Except.ok.inj hd
      exact .same rfl

/-! ### What a call writes -/

/-- The row that a call was first answered with. -/
def firstProject (h : List AdminEvent) : Option ProjectRow := h.findSome? fun
  | ⟨_, .getProject _, .ok row⟩ => row
  | _ => none

/-- The call has the project `target` replaced by these fields, by what it has read. -/
def ProjectCall.Replaces (target : String) (input : ProjectInput) (archived : Bool)
    (h : List AdminEvent) : ProjectCall → Prop
  | .mutation (.updateProject _ id input' archived') => id = target ∧ input' = input ∧ archived' = archived
  | .tool _ args => args.id = some target ∧ ∃ current, firstProject h = some current ∧
      input = args.input current ∧ archived = args.archived.getD current.archived
  | _ => False

/-- What a call may send: it writes projects with checked fields, and updates the one it is for, once it
has read it. -/
def AdminOp.replaces (call : ProjectCall) (i : ℕ) (h : List AdminEvent) : AdminOp → Prop
  | .createProject _ fields => ∃ input : ProjectInput, input.Made fields
  | .updateProject id fields archived => ∃ target input row, input.Made fields ∧
      call.Replaces target input archived h ∧ ⟨i, .getProject target, .ok (some row)⟩ ∈ h ∧ id = row.id
  | _ => True

/-- The call has had the update of its project answered. -/
def Updated (call : ProjectCall) (i : ℕ) (h : List AdminEvent) : Prop :=
  ∀ id field, (call.sets id field).isSome → ∃ row fields archived,
    ⟨i, .getProject id, .ok (some row)⟩ ∈ h ∧ ⟨i, .updateProject row.id fields archived, .ok ()⟩ ∈ h

section contract
variable {call : ProjectCall} {i : ℕ} {h : List AdminEvent} {α : Type} {libs : CodeLibs}

/-- A call keeps its contract. -/
abbrev Replacing (call : ProjectCall) (i : ℕ) (Q : Except Error α → List AdminEvent → Prop)
    (p : AdminProg α) (h : List AdminEvent) : Prop :=
  Sends i (fun h op => op.replaces call i h) Q p h

/-- The requests that write no project. -/
def AdminOp.sparesProjects : AdminOp → Bool
  | .createProject .. | .updateProject .. => false
  | _ => true

theorem AdminOp.replaces_of_spares {op : AdminOp} (hop : op.sparesProjects) : op.replaces call i h := by
  cases op with
  | createProject => cases hop
  | updateProject => cases hop
  | _ => trivial

theorem firstProject_append {more : List AdminEvent} {row : ProjectRow}
    (hfirst : firstProject h = some row) : firstProject (h ++ more) = some row := by
  unfold firstProject at hfirst ⊢
  rw [List.findSome?_append, hfirst, Option.some_or]

theorem ProjectCall.Replaces.more {target : String} {input : ProjectInput} {archived : Bool}
    (hreplaces : call.Replaces target input archived h) (more : List AdminEvent) :
    call.Replaces target input archived (h ++ more) := by
  cases call with
  | tool auth args =>
      obtain ⟨hid, current, hfirst, hinput, harchived⟩ := hreplaces
      exact ⟨hid, current, firstProject_append hfirst, hinput, harchived⟩
  | mutation call => cases call <;> exact hreplaces

/-- The call sets fields of its own project only. -/
theorem ProjectCall.Replaces.target {target id : String} {input : ProjectInput} {archived : Bool}
    {field : ProjectField} (hreplaces : call.Replaces target input archived h)
    (hsets : (call.sets id field).isSome) : id = target := by
  cases call with
  | tool auth args =>
      have hid : args.id = some id := by
        by_contra hne
        simp [sets, hne] at hsets
      exact Option.some.inj (hid.symm.trans hreplaces.1)
  | mutation call =>
      cases call with
      | updateProject auth id' input' archived' =>
          have hid : id' = id := by
            by_contra hne
            simp [sets, hne] at hsets
          exact hid.symm.trans hreplaces.1
      | _ => cases hsets

/-- A check that passes; its message is the error if it does not. -/
theorem replacing_checked {β : Type} {r : Except String β} {f : β → AdminProg α}
    {Q : Except Error α → List AdminEvent → Prop}
    (hok : ∀ a, r = .ok a → Replacing call i Q (f a) h) (herr : ∀ e, Q (.error e) h) :
    Replacing call i Q (checked r >>= f) h := by
  cases r with
  | ok a => exact hok a rfl
  | error e => exact herr _

/-- The project of a member was read. -/
theorem replacing_projectOfMember {auth : Option AuthInfo} {target : String} :
    Replacing call i (fun r h' => ∀ row, r = .ok row →
        h' = h ++ [⟨i, .getProject target, .ok (some row)⟩]) (projectOfMember auth target) h := by
  unfold projectOfMember
  split
  · refine ⟨trivial, fun found => ?_⟩
    rcases found with e | _ | row
    · rintro row ⟨⟩
    · rintro row ⟨⟩
    · refine Sends.ensure (fun hmember => ?_) fun hother => ?_
      · rintro row' ⟨⟩
        rfl
      · rintro row' ⟨⟩
  · rintro row ⟨⟩

/-- `updateProject`, in a call that is for the project. -/
theorem replacing_updateProject {auth : Option AuthInfo} {target : String} {input : ProjectInput}
    {archived : Bool} (hreplaces : call.Replaces target input archived h) :
    Replacing call i (fun r h => (∃ row, r = .ok row) → Updated call i h)
      (updateProject auth target input archived) h := by
  unfold updateProject
  generalize hinput : input.fields = result
  refine replacing_projectOfMember.bind (fun row h' hread => ?_) fun e h' _ => ?_
  · obtain rfl := hread row rfl
    refine replacing_checked (fun fields hfields => ?_) fun e => ?_
    · refine ⟨⟨target, input, row, ProjectInput.made_of_ok (hinput.trans hfields), hreplaces.more _,
        List.mem_append_right _ (List.mem_singleton_self _), rfl⟩, fun r => ?_⟩
      cases r with
      | error e => rintro ⟨row, ⟨⟩⟩
      | ok u =>
          refine ⟨trivial, fun now => ?_⟩
          rintro - id field hsets
          obtain rfl := hreplaces.target hsets
          exact ⟨row, fields, archived, by simp, by simp⟩
    · rintro ⟨row, ⟨⟩⟩
  · rintro ⟨row, ⟨⟩⟩

theorem replacing_tool (auth : Option AuthInfo) (args : ProjectArgs) :
    Replacing (.tool auth args) i (fun r h => (∃ row, r = .ok row) → Updated (.tool auth args) i h)
      (updateProjectTool auth args) [] := by
  unfold updateProjectTool
  split
  · rintro ⟨row, ⟨⟩⟩
  rename_i id hid
  have hquery : Replacing (.tool auth args) i
      (fun r h => ∀ current, r = .ok (some current) → firstProject h = some current)
      (projectQuery auth id) [] := by
    unfold projectQuery guardSignedIn
    split
    · refine ⟨trivial, fun found => ?_⟩
      rcases found with e | _ | row
      · rintro current ⟨⟩
      · rintro current ⟨⟩
      · show Sends _ _ _ (if _ then _ else _) _
        split
        · refine ⟨trivial, fun inst => ?_⟩
          cases inst with
          | error e => rintro current ⟨⟩
          | ok inst =>
              intro current hcurrent
              have hrow : (if inst.any fun inst => inst.kind == .invoicing then some row else none) =
                  some current := Except.ok.inj hcurrent
              split at hrow
              · rw [← hrow]
                rfl
              · cases hrow
        · rintro current ⟨⟩
    · rintro current ⟨⟩
    · rintro current ⟨⟩
  refine hquery.bind (fun found h hfirst => ?_) fun e h _ => ?_
  · cases found with
    | none => rintro ⟨row, ⟨⟩⟩
    | some current => exact replacing_updateProject ⟨hid, current, hfirst current rfl, rfl, rfl⟩
  · rintro ⟨row, ⟨⟩⟩

end contract

/-! ### The other mutations -/

section spares
variable {libs : CodeLibs} {auth : Option AuthInfo} {α : Type}

theorem spares_of_plain {p : AdminProg α} (hp : p.All fun op => op.plain) :
    p.All fun op => op.sparesProjects := by
  refine hp.mono fun op hop => ?_
  cases op <;> first | rfl | cases hop

theorem spares_createApiToken (instanceId name : String) :
    (createApiToken libs auth instanceId name).All fun op => op.sparesProjects := by
  unfold createApiToken
  generalize requireApiTokenName name = checkedName
  refine Prog.All.bind (spares_of_plain (plain_guardOwnerOrSuperuser instanceId)) fun _ => ?_
  refine Prog.All.bind (spares_of_plain plain_adminUserId) fun userId => ?_
  apply Prog.All.bind (spares_of_plain (plain_checked _))
  intro name
  refine Prog.All.bind (spares_of_plain (plain_orAdminError ⟨rfl, fun _ => trivial⟩)) fun found => ?_
  refine Prog.All.bind (Prog.all_ofOption _ _) fun _ => ?_
  refine ⟨rfl, fun id => ⟨rfl, fun nonce => ⟨rfl, fun r => ?_⟩⟩⟩
  cases r <;> trivial

end spares

section calls
variable {i : ℕ} {libs : CodeLibs}

/-- A call that writes no project. -/
theorem replacing_of_spares {call : ProjectCall} {p : AdminProg AdminReply}
    (hp : p.All fun op => op.sparesProjects) (hcall : ∀ id field, call.sets id field = none) :
    Replacing call i (fun r h => (∃ reply, r = .ok reply) → Updated call i h) p [] := by
  refine Sends.post (Sends.of_all hp AdminOp.replaces_of_spares) fun r h _ hok id field hsets => ?_
  rw [hcall] at hsets
  cases hsets

theorem replacing_plain {call : AdminCall} (hplain : call.isPlain)
    (hcall : ∀ id field, (ProjectCall.mutation call).sets id field = none) :
    Replacing (.mutation call) i
      (fun r h => (∃ reply, r = .ok reply) → Updated (.mutation call) i h)
      ((ProjectCall.mutation call).prog libs) [] :=
  replacing_of_spares (spares_of_plain (plain_call hplain)) hcall

theorem replacing_createProject (auth : Option AuthInfo) (instanceId : String) (input : ProjectInput) :
    Replacing (.mutation (.createProject auth instanceId input)) i
      (fun r h => (∃ row, r = .ok row) → Updated (.mutation (.createProject auth instanceId input)) i h)
      (createProject libs auth instanceId input) [] := by
  have hnone : ∀ h, Updated (.mutation (.createProject auth instanceId input)) i h := by
    intro h id field hsets
    cases hsets
  unfold createProject
  generalize hinput : input.fields = result
  refine Sends.bind (Sends.of_all (spares_of_plain (plain_guardMember instanceId))
    AdminOp.replaces_of_spares) (fun _ h _ => ?_) fun _ _ _ _ => hnone _
  refine Sends.bind (Sends.of_all (spares_of_plain (plain_existingInstance instanceId))
    AdminOp.replaces_of_spares)
    (fun inst h _ => ?_) fun _ _ _ _ => hnone _
  refine replacing_checked (fun _ _ => ?_) fun _ _ => hnone _
  refine replacing_checked (fun fields hfields => ?_) fun _ _ => hnone _
  refine ⟨⟨input, ProjectInput.made_of_ok (hinput.trans hfields)⟩, fun r => ?_⟩
  cases r with
  | error e => exact fun _ => hnone _
  | ok row => exact fun _ => hnone _

/-- Every call keeps the contract. -/
theorem replacing_call (call : ProjectCall) (i : ℕ) :
    Replacing call i (fun r h => (∃ reply, r = .ok reply) → Updated call i h) (call.prog libs) [] := by
  have hreply : ∀ {α : Type} {f : α → AdminReply} {p : AdminProg α},
      Replacing call i (fun r h => (∃ a, r = .ok a) → Updated call i h) p [] →
      Replacing call i (fun r h => (∃ reply, r = .ok reply) → Updated call i h)
        (AdminProg.reply f p) [] := by
    intro α f p hp
    refine hp.bind (fun a h hupdated _ => hupdated ⟨a, rfl⟩) fun e h _ => ?_
    rintro ⟨reply, ⟨⟩⟩
  cases call with
  | tool auth args => exact hreply (replacing_tool auth args)
  | mutation call =>
      cases call with
      | createProject auth instanceId input => exact hreply (replacing_createProject auth instanceId input)
      | updateProject auth id input archived => exact hreply (replacing_updateProject ⟨rfl, rfl, rfl⟩)
      | createApiToken auth instanceId name =>
          exact replacing_of_spares ((spares_createApiToken ..).bind fun _ => trivial) fun _ _ => rfl
      | _ => exact replacing_plain rfl fun _ _ => rfl

end calls

/-! ### Runs -/

/-- A write of the tool is served while the fields that it was not passed are as it has read them. -/
def KeepsOthers {readOnly : Bool} (calls : ℕ → ProjectCall) (t : Trace (adminService readOnly))
    (ev : AdminEvent) : Prop :=
  ∀ id fields archived auth args read current, ev.op = .updateProject id fields archived →
    calls ev.caller = .tool auth args → firstProject (ownEvents ev.caller t.events) = some read →
    (adminDb t).projects.lookup id = some current →
    ∀ field, args.passes field = none → current.value field = read.value field

section runs
variable {readOnly : Bool} {libs : CodeLibs} {calls : ℕ → ProjectCall}
variable {t : Trace (adminService readOnly)} {i : ℕ} {e : AdminEnv} {op : AdminOp} {id : String}

/-- Every version of the tables is sound, and so is every row that was read. -/
structure ProjectsRead (t : Trace (adminService readOnly)) : Prop where
  sound : ∀ {d}, t.state.db.Committed d → d.ProjectsSound
  read : ∀ {j target row}, ⟨j, .getProject target, .ok (some row)⟩ ∈ t.events →
    row.id = target ∧ row.Tidied

theorem AdminDb.ProjectsSound.change {d d' : AdminDb} {call : ProjectCall} {h : List AdminEvent}
    (hsound : d.ProjectsSound) (hd : d.change e op = .ok d') (hop : op.replaces call i h) :
    d'.ProjectsSound := by
  intro id row hrow
  cases AdminDb.project_move hd id with
  | same hsame =>
      rw [hsame] at hrow
      exact hsound id row hrow
  | create hnew hid hcreated =>
      obtain rfl := Option.some.inj (hcreated.symm.trans hrow)
      obtain ⟨input, hmade⟩ := hop
      exact ⟨hid.symm, hmade.tidied rfl rfl rfl rfl rfl⟩
  | update hold hupdated =>
      obtain rfl := Option.some.inj (hupdated.symm.trans hrow)
      obtain ⟨target, input, row', hmade, -⟩ := hop
      exact ⟨(hsound id _ hold).1, hmade.tidied rfl rfl rfl rfl rfl⟩

theorem ProjectsRead.serve {call : ProjectCall} {h : List AdminEvent} (hread : ProjectsRead t)
    (hop : op.replaces call i h) : ProjectsRead (t.serve i e op) := by
  constructor
  · intro d hd
    change ((t.state.serve e readOnly op).2).db.Committed d at hd
    rcases AdminStore.serve_state t.state e readOnly op with hsame | ⟨-, d', hd', hwritten⟩
    · rw [hsame] at hd
      exact hread.sound hd
    · rw [hwritten] at hd
      rcases List.mem_cons.mp hd with rfl | hd
      · exact (hread.sound (Replica.committed_now _)).change hd' hop
      · exact hread.sound hd
  · intro j target row hev
    rw [Trace.serve_events] at hev
    rcases List.mem_append.mp hev with hev | hev
    · exact hread.read hev
    · obtain ⟨rfl, rfl, hres⟩ := Event.mk.inj (List.mem_singleton.mp hev)
      have hans : (t.state.read e (.ok ((t.state.db.seen e.lag).projects.lookup target))).1 =
          .ok (some row) := (eq_of_heq hres).symm
      have hrow := Except.ok.inj (Fault.read_ok hans)
      exact hread.sound (Replica.committed_seen _ _) target row hrow

theorem projects_read {d₀ : AdminDb} (hempty : d₀.projects = ∅)
    {c : Pool (adminService readOnly) Error AdminReply}
    (h : Run (adminService readOnly) (IsProjectCall libs) (Pool.init ⟨⟨d₀, []⟩⟩) c) :
    ProjectsRead c.trace := by
  have hstarts : ∀ p, IsProjectCall libs p → ∀ i,
      Sends i (fun h op => ∃ call, op.replaces call i h) (fun _ _ => True) p [] := by
    rintro p ⟨call, rfl⟩ i
    exact (replacing_call call i).mono (fun _ _ hop => ⟨call, hop⟩) fun _ _ _ => trivial
  refine Run.contract (K := ProjectsRead) hstarts (fun hK _ hop => ?_) h ?_
  · obtain ⟨call, hop⟩ := hop
    exact hK.serve hop
  · constructor
    · intro d hd id row hrow
      rw [List.mem_singleton.mp hd, hempty] at hrow
      cases hrow
    · intro j target row hev
      cases hev

/-- A request leaves the row of a project as it is and is no answered update of it, or it replaces the
fields. -/
theorem project_row_served (i : ℕ) (e : AdminEnv) (op : AdminOp) {row : ProjectRow}
    (hrow : (adminDb t).projects.lookup id = some row) :
    ((adminDb (t.serve i e op)).projects.lookup id = some row ∧ ∀ fields archived,
      (⟨i, op, (t.state.serve e readOnly op).1⟩ : AdminEvent) ≠
        ⟨i, .updateProject id fields archived, .ok ()⟩) ∨
    ∃ fields archived, op = .updateProject id fields archived ∧
      (adminDb (t.serve i e op)).projects.lookup id = some (row.update e fields archived) := by
  by_cases hupdate : ∃ fields archived, op = .updateProject id fields archived
  · obtain ⟨fields, archived, rfl⟩ := hupdate
    have hwritten : ∀ {d}, (adminDb t).change e (.updateProject id fields archived) = .ok d →
        d.projects.lookup id = some (row.update e fields archived) := by
      intro d hd
      obtain ⟨projects, hprojects, rfl⟩ := except_map_ok hd
      obtain ⟨row', hrow', rfl⟩ := updateRow_ok hprojects
      obtain rfl := Option.some.inj (hrow'.symm.trans hrow)
      rw [Table.lookup_insert_if, if_pos rfl]
    cases hres : (t.state.serve e readOnly (.updateProject id fields archived)).1 with
    | ok u =>
        obtain ⟨d, hd, hstate⟩ := AdminStore.write_ok hres
        refine .inr ⟨fields, archived, rfl, ?_⟩
        show ((t.state.serve e readOnly (.updateProject id fields archived)).2).db.now.projects.lookup
          id = _
        rw [show (t.state.serve e readOnly (.updateProject id fields archived)).2 = _ from hstate]
        exact hwritten hd
    | error err =>
        rcases AdminStore.serve_state t.state e readOnly (.updateProject id fields archived) with
          hsame | ⟨-, d, hd, hstate⟩
        · refine .inl ⟨?_, fun fields' archived' heq => ?_⟩
          · show ((t.state.serve e readOnly (.updateProject id fields archived)).2).db.now.projects.lookup
              id = _
            rw [hsame]
            exact hrow
          · obtain ⟨-, hop, hres'⟩ := Event.mk.inj heq
            obtain ⟨-, rfl, rfl⟩ := AdminOp.updateProject.inj hop
            cases eq_of_heq hres'
        · refine .inr ⟨fields, archived, rfl, ?_⟩
          show ((t.state.serve e readOnly (.updateProject id fields archived)).2).db.now.projects.lookup
            id = _
          rw [hstate]
          exact hwritten hd
  · left
    constructor
    · show ((t.state.serve e readOnly op).2).db.now.projects.lookup id = _
      rcases AdminStore.serve_state t.state e readOnly op with hsame | ⟨-, d, hd, hstate⟩
      · rw [hsame]
        exact hrow
      · rw [hstate]
        cases AdminDb.project_move hd id with
        | same hsame => exact hsame.trans hrow
        | create hnew => cases hrow.symm.trans hnew
        | @update fields archived => exact absurd ⟨fields, archived, rfl⟩ hupdate
    · intro fields archived heq
      exact hupdate ⟨fields, archived, (Event.mk.inj heq).2.1⟩

theorem ProjectRow.update_value (row : ProjectRow) (fields : ProjectFields) (archived : Bool)
    (field : ProjectField) : (row.update e fields archived).value field = fields.value archived field := by
  cases field <;> rfl

theorem firstProject_mem {h : List AdminEvent} {row : ProjectRow} (hfirst : firstProject h = some row) :
    ∃ j target, (⟨j, .getProject target, .ok (some row)⟩ : AdminEvent) ∈ h := by
  obtain ⟨ev, hev, hrow⟩ := List.exists_of_findSome?_eq_some hfirst
  split at hrow
  · rename_i j target row'
    exact ⟨j, target, hrow ▸ hev⟩
  · cases hrow

/-- A write gives the fields that the call was passed these values, and leaves the others. -/
theorem value_written (hread : ProjectsRead t) {fields : ProjectFields} {archived : Bool}
    {r : (AdminOp.updateProject id fields archived).Res}
    (hop : (AdminOp.updateProject id fields archived).replaces (calls i) i (ownEvents i t.events))
    (hok : KeepsOthers calls t ⟨i, .updateProject id fields archived, r⟩) {row : ProjectRow}
    (hrow : (adminDb t).projects.lookup id = some row) (field : ProjectField) :
    (row.update e fields archived).value field =
      ((calls i).sets id field).getD (row.value field) := by
  obtain ⟨target, input, row', hmade, hreplaces, hmem, hid⟩ := hop
  have htarget : id = target := hid.trans (hread.read (mem_ownEvents.mp hmem).1).1
  subst htarget
  rw [ProjectRow.update_value, hmade.value]
  cases hcall : calls i with
  | tool auth args =>
      rw [hcall] at hreplaces
      obtain ⟨hargs, current, hfirst, rfl, rfl⟩ := hreplaces
      obtain ⟨j, target, hcurrent⟩ := firstProject_mem hfirst
      have htidied := (hread.read (mem_ownEvents.mp hcurrent).1).2
      rw [args.input_passes htidied, ProjectCall.sets, if_pos hargs]
      cases hpassed : args.passes field with
      | some v => rfl
      | none =>
          exact (hok id fields _ auth args current row rfl hcall hfirst hrow field hpassed).symm
  | mutation call =>
      rw [hcall] at hreplaces
      cases call with
      | updateProject auth id' input' archived' =>
          obtain ⟨rfl, rfl, rfl⟩ := hreplaces
          rw [ProjectCall.sets, if_pos rfl]
          rfl
      | _ => cases hreplaces

/-- By the requests so far: a field that no call is passed is as it was in `row₀`, and one that only
call `i` is passed, which began after the first `n`, is too until the update of `i` is answered, or it
has the value that `i` was passed. -/
def FieldsKept (calls : ℕ → ProjectCall) (id : String) (row₀ : ProjectRow) (n : ℕ)
    (t : Trace (adminService readOnly)) : Prop :=
  ∃ row, (adminDb t).projects.lookup id = some row ∧ ∀ field,
    ((∀ j, (calls j).sets id field = none) → row.value field = row₀.value field) ∧
    ∀ i v, n ≤ i → (calls i).sets id field = some v →
      (∀ j, j ≠ i → (calls j).sets id field = none) → row.value field = v ∨
        row.value field = row₀.value field ∧
        ∀ fields archived, ⟨i, .updateProject id fields archived, .ok ()⟩ ∉ t.events

theorem FieldsKept.serve {row₀ : ProjectRow} {n : ℕ} (h : FieldsKept calls id row₀ n t)
    (hread : ProjectsRead t) (hop : op.replaces (calls i) i (ownEvents i t.events))
    (hok : KeepsOthers calls t ⟨i, op, (t.state.serve e readOnly op).1⟩) :
    FieldsKept calls id row₀ n (t.serve i e op) := by
  obtain ⟨row, hrow, hfields⟩ := h
  have hserved := project_row_served i e op hrow
  rcases hserved with ⟨hsame, hnot⟩ | ⟨fields, archived, rfl, hnew⟩
  · refine ⟨row, hsame, fun field => ⟨(hfields field).1, fun k v hk hsets hothers => ?_⟩⟩
    refine ((hfields field).2 k v hk hsets hothers).imp_right fun ⟨hold, hnone⟩ => ⟨hold, ?_⟩
    intro fields archived hmem
    rw [Trace.serve_events] at hmem
    rcases List.mem_append.mp hmem with hmem | hmem
    · exact hnone fields archived hmem
    · have hev := List.mem_singleton.mp hmem
      obtain ⟨rfl, -⟩ := Event.mk.inj hev
      exact hnot fields archived hev.symm
  · refine ⟨_, hnew, fun field => ?_⟩
    have hvalue := value_written hread (e := e) hop hok hrow field
    constructor
    · intro hnone
      rw [hvalue, hnone i]
      exact (hfields field).1 hnone
    · intro k v hk hsets hothers
      by_cases hik : i = k
      · subst hik
        left
        rw [hvalue, hsets]
        rfl
      · rw [hvalue, hothers i hik]
        refine ((hfields field).2 k v hk hsets hothers).imp_right fun ⟨hold, hnone⟩ => ⟨hold, ?_⟩
        intro fields' archived' hmem
        rw [Trace.serve_events] at hmem
        rcases List.mem_append.mp hmem with hmem | hmem
        · exact hnone fields' archived' hmem
        · exact hik (Event.mk.inj (List.mem_singleton.mp hmem)).1.symm

end runs

/-! ### Sample runs

An instance and the project `p1` are made; then one call of the tool is passed a new name, and another
one a new client. -/

def allFields : List ProjectField := [.name, .clientName, .clientAbn, .clientAddress, .reference, .archived]

theorem mem_allFields (field : ProjectField) : field ∈ allFields := by
  cases field <;> simp [allFields]

/-- The check of `KeepsOthers`. -/
def keepsOthersTest {readOnly : Bool} (calls : ℕ → ProjectCall)
    (c : Pool (adminService readOnly) Error AdminReply) (ev : AdminEvent) : Bool :=
  match ev.op, calls ev.caller with
  | .updateProject id _ _, .tool _ args =>
      (firstProject (ownEvents ev.caller c.trace.events)).all fun read =>
        ((adminDb c.trace).projects.lookup id).all fun current =>
          allFields.all fun field => (args.passes field).isSome || current.value field == read.value field
  | _, _ => true

theorem keepsOthers_of_test {readOnly : Bool} {calls : ℕ → ProjectCall}
    {c : Pool (adminService readOnly) Error AdminReply} {ev : AdminEvent}
    (h : keepsOthersTest calls c ev) : KeepsOthers calls c.trace ev := by
  intro id fields archived auth args read current hop hcall hread hcurrent field hpassed
  unfold keepsOthersTest at h
  rw [hop, hcall] at h
  simp only [hread, hcurrent, Option.all_some] at h
  have hfield := List.all_eq_true.mp h field (mem_allFields field)
  rw [hpassed] at hfield
  exact of_decide_eq_true hfield

abbrev ToolMove : Type := Move (adminService false) (IsProjectCall sampleAdminLibs)

/-- A member of the instance `i1`. -/
def bookkeeper : Option AuthInfo := some (.user "u1" [⟨"i1", false⟩] false)

/-- No argument but the project. -/
def noArgs : ProjectArgs := ⟨some "p1", none, none, none, none, none, none⟩

def sampleProjectCalls : ℕ → ProjectCall
  | 0 => .mutation (.createInstance sampleSuperuser "Books" "books" none none false .invoicing)
  | 1 => .mutation (.createProject bookkeeper "i1" ⟨"Site", "Acme", none, none, none⟩)
  | 2 => .tool bookkeeper { noArgs with name := some "Shop" }
  | 3 => .tool bookkeeper { noArgs with clientName := some "Bolt" }
  | _ => .mutation (.deleteUser none "")

def projectCall (i : ℕ) : ToolMove :=
  .start ((sampleProjectCalls i).prog sampleAdminLibs) ⟨sampleProjectCalls i, rfl⟩

def projectServes (i : ℕ) (newId : String) (n : ℕ) : List ToolMove :=
  List.replicate n (.serve i (sampleAdminEnv newId))

/-- The project is made. -/
def projectMade : Pool (adminService false) Error AdminReply :=
  noAdmins.play (projectCall 0 :: projectCall 1 :: projectServes 0 "i1" 2 ++ projectServes 1 "p1" 2)

/-- Both calls of the tool are made, and served in this order. -/
def toolPool (order : List ToolMove) : Pool (adminService false) Error AdminReply :=
  projectMade.play (projectCall 2 :: projectCall 3 :: order)

/-- One after the other. -/
def toolsApart : List ToolMove := projectServes 2 "x" 5 ++ projectServes 3 "x" 5

/-- The first one reads the project before the second one writes it. -/
def toolsTogether : List ToolMove :=
  projectServes 2 "x" 2 ++ projectServes 3 "x" 5 ++ projectServes 2 "x" 3

theorem toolPool_run (order : List ToolMove) :
    Run (adminService false) (IsProjectCall sampleAdminLibs) noAdmins projectMade ∧
      Run (adminService false) (IsProjectCall sampleAdminLibs) projectMade (toolPool order) :=
  ⟨Pool.play_run _ _, Pool.play_run _ _⟩

theorem toolPool_plays (order : List ToolMove) (i : ℕ) (hi : i < 4) :
    (toolPool order).Plays i ((sampleProjectCalls i).prog sampleAdminLibs) := by
  have hmade : projectMade.threads.length = 2 ∧
      projectMade.trace.events.all fun ev => ev.caller < 2 := by decide +kernel
  have hcallers : ∀ i, 2 ≤ i → ∀ ev ∈ projectMade.trace.events, ev.caller ≠ i := by
    intro i hi ev hev
    have hlt : ev.caller < 2 := of_decide_eq_true (List.all_eq_true.mp hmade.2 ev hev)
    omega
  have hrest : Run (adminService false) (IsProjectCall sampleAdminLibs)
      ((projectMade.move (projectCall 2)).move (projectCall 3)) (toolPool order) :=
    Pool.play_run _ order
  have hbegun : Run (adminService false) (IsProjectCall sampleAdminLibs)
      ((noAdmins.move (projectCall 0)).move (projectCall 1)) (toolPool order) :=
    (Pool.play_run _ (projectServes 0 "i1" 2 ++ projectServes 1 "p1" 2)).trans
      (toolPool_run order).2
  match i, hi with
  | 0, _ =>
      exact Pool.start_plays (S := adminService false) (c := noAdmins) rfl
        (fun ev hev => by cases hev) ((Pool.move_run _ (projectCall 1)).trans hbegun)
  | 1, _ =>
      exact Pool.start_plays (S := adminService false) (c := noAdmins.move (projectCall 0)) rfl
        (fun ev hev => by cases hev) hbegun
  | 2, _ =>
      exact Pool.start_plays (S := adminService false) hmade.1 (hcallers 2 le_rfl)
        ((Pool.move_run _ (projectCall 3)).trans hrest)
  | 3, _ =>
      have hlen : (projectMade.move (projectCall 2)).threads.length = 3 := by
        show (projectMade.threads ++ _).length = 3
        rw [List.length_append, hmade.1]
        rfl
      exact Pool.start_plays (S := adminService false) hlen (hcallers 3 (by omega)) hrest

end Microticket

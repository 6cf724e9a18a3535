import Microticket.McpTools

/-! # The arguments of the tools

The input schemas declare a type for every argument.  A tool refuses a call with a required argument
that it cannot read (`Unreadable`).  Any other argument of a wrong type counts as absent, and a list of
ids as its texts: the tool runs as if the argument had not been passed (`arguments_passed`,
`paid_date_dropped`). -/

namespace Microticket.Mcp

open Interleaving

/-! ### Input schemas -/

/-- The type of an argument; the lists are of strings. -/
inductive ArgType where
  | string
  | integer
  | boolean
  | strings
  deriving DecidableEq

/-- The values of the type. -/
def ArgType.allows : ArgType → Json → Bool
  | .string, .string _ => true
  | .integer, .int _ => true
  | .boolean, .bool _ => true
  | .strings, .array items => items.all fun item => item.asStr.isSome
  | _, _ => false

/-- The name and the `inputSchema` of a tool. -/
structure ToolSchema where
  name : String
  properties : List (String × ArgType)
  required : List String

/-- `catalogue` of `mcp/tickets.rs`. -/
def ticketsCatalogue : List ToolSchema :=
  [⟨"list_tickets", [("instanceId", .string), ("status", .string), ("assignedToMe", .boolean),
      ("assignedTo", .string), ("first", .integer), ("after", .string)], ["instanceId"]⟩,
    ⟨"get_ticket", [("ticketId", .string)], ["ticketId"]⟩,
    ⟨"reply_to_ticket", [("ticketId", .string), ("body", .string)], ["ticketId", "body"]⟩,
    ⟨"add_internal_note", [("ticketId", .string), ("body", .string)], ["ticketId", "body"]⟩,
    ⟨"set_ticket_status", [("ticketId", .string), ("status", .string)], ["ticketId", "status"]⟩,
    ⟨"assign_ticket", [("ticketId", .string), ("userId", .string)], ["ticketId"]⟩,
    ⟨"update_ticket_recipients", [("ticketId", .string), ("list", .string), ("action", .string),
      ("email", .string)], ["ticketId", "list", "action", "email"]⟩,
    ⟨"list_instance_members", [("instanceId", .string)], ["instanceId"]⟩]

/-- `catalogue` of `mcp/invoicing.rs`. -/
def invoicingCatalogue : List ToolSchema :=
  [⟨"list_projects", [("instanceId", .string), ("includeArchived", .boolean)], ["instanceId"]⟩,
    ⟨"create_project", [("instanceId", .string), ("name", .string), ("clientName", .string),
      ("clientAbn", .string), ("clientAddress", .string), ("reference", .string)],
      ["instanceId", "name", "clientName"]⟩,
    ⟨"update_project", [("id", .string), ("name", .string), ("clientName", .string),
      ("clientAbn", .string), ("clientAddress", .string), ("reference", .string),
      ("archived", .boolean)], ["id"]⟩,
    ⟨"list_billable_items", [("instanceId", .string), ("projectId", .string), ("filter", .string),
      ("first", .integer), ("after", .string)], ["instanceId"]⟩,
    ⟨"create_billable_item", [("projectId", .string), ("date", .string), ("description", .string),
      ("quantity", .string), ("unitPriceCents", .integer)],
      ["projectId", "date", "description", "quantity", "unitPriceCents"]⟩,
    ⟨"update_billable_item", [("id", .string), ("date", .string), ("description", .string),
      ("quantity", .string), ("unitPriceCents", .integer)],
      ["id", "date", "description", "quantity", "unitPriceCents"]⟩,
    ⟨"delete_billable_item", [("id", .string)], ["id"]⟩,
    ⟨"list_invoices", [("instanceId", .string), ("projectId", .string), ("filter", .string),
      ("first", .integer), ("after", .string)], ["instanceId"]⟩,
    ⟨"get_invoice", [("invoiceId", .string)], ["invoiceId"]⟩,
    ⟨"create_invoice", [("projectId", .string), ("itemIds", .strings)], ["projectId", "itemIds"]⟩,
    ⟨"add_invoice_items", [("invoiceId", .string), ("itemIds", .strings)], ["invoiceId", "itemIds"]⟩,
    ⟨"remove_invoice_items", [("invoiceId", .string), ("itemIds", .strings)],
      ["invoiceId", "itemIds"]⟩,
    ⟨"delete_invoice", [("invoiceId", .string)], ["invoiceId"]⟩,
    ⟨"finalize_invoice", [("invoiceId", .string), ("issueDate", .string)],
      ["invoiceId", "issueDate"]⟩,
    ⟨"set_invoice_paid", [("invoiceId", .string), ("paidDate", .string)], ["invoiceId"]⟩,
    ⟨"get_invoice_pdf_url", [("invoiceId", .string)], ["invoiceId"]⟩]

/-! ### Refusals and values -/

/-- An argument is passed, and is not of the declared type. -/
def ToolSchema.Mistyped (tool : ToolSchema) (arguments : Json) : Prop :=
  ∃ a ∈ tool.properties, ∃ v, arguments.get a.1 = some v ∧ v.isNull = false ∧ a.2.allows v = false

/-- The tools get a value out of an argument. -/
def readable (arguments : Json) (a : String × ArgType) : Bool :=
  match a.2 with
  | .string =>
      if a.1 = "quantity" then (quantityArg arguments).isSome else (stringArg arguments a.1).isSome
  | .integer => (i64Arg arguments a.1).isSome
  | .boolean => (boolArg arguments a.1).isSome
  | .strings => (idList arguments a.1).isSome

/-- A required argument is absent, or there is nothing in it that the tools read. -/
def ToolSchema.Unreadable (tool : ToolSchema) (arguments : Json) : Prop :=
  ∃ a ∈ tool.properties, a.1 ∈ tool.required ∧ readable arguments a = false

/-- Whatever GraphQL answers, the tool runs no mutation and ends with an error. -/
def Refuses : ToolProg → Prop
  | .done _ => False
  | .fail _ => True
  | .call request k => request.document.operation = .query ∧ ∀ r, Refuses (k r)

/-- The value of an argument of the root field, or of a field of its input. -/
def Request.given (request : Request) (name : String) : Option Json :=
  let argument name := (request.document.arguments.lookup name).bind (request.values.lookup ·)
  match argument name with
  | some v => some v
  | none => (argument "input").bind (·.get name)

/-- How a value is handed on: a quantity as its text, and an empty text to clear a field as a null. -/
def handedOn (tool name : String) (v : Json) : Json :=
  match v with
  | .int n => if name = "quantity" then .string (toString n) else v
  | .float text => if name = "quantity" then .string text else v
  | .string s =>
      if s = "" ∧ tool = "update_project" ∧ name ∈ ["clientAbn", "clientAddress", "reference"] then
        .null
      else v
  | v => v

/-- The mutation carries the value of the argument.  The tool for recipients has a mutation for each
list and action. -/
def Carries (tool name : String) (v : Json) (request : Request) : Prop :=
  if tool = "update_ticket_recipients" ∧ (name = "list" ∨ name = "action") then
    ∃ list action, recipientsField list action = some request.document.field ∧
      v = .string (if name = "list" then list else action)
  else request.given name = some (handedOn tool name v)

/-- Every mutation carries all arguments that are passed. -/
def CarriesAll (tool : ToolSchema) (arguments : Json) (request : Request) : Prop :=
  request.document.operation = .mutation → ∀ a ∈ tool.properties, ∀ v,
    arguments.get a.1 = some v → v.isNull = false → Carries tool.name a.1 v request

/-- No passed argument is treated as omitted. -/
structure PassesArguments (tool : ToolSchema) (arguments : Json) (p : ToolProg) : Prop where
  refuses : tool.Mistyped arguments → Refuses p
  carries : p.All (CarriesAll tool arguments)

/-! ### Programs -/

section programs
variable {document : Document} {values : List (String × Json)} {field key : String}
variable {P : Request → Prop}

/-- A tool that reaches its one document does not refuse the call. -/
theorem rename_not_refuses : ¬ Refuses (rename (run document values) field key) :=
  fun h => h.2 (.ok .null)

theorem unwrapConnection_not_refuses :
    ¬ Refuses (unwrapConnection (run document values) field key) :=
  fun h => h.2 (.ok .null)

theorem run_all (h : P ⟨document, values⟩) : (run document values).All P := by
  refine ⟨h, fun r => ?_⟩
  cases r <;> trivial

theorem rename_all (h : P ⟨document, values⟩) :
    (rename (run document values) field key).All P :=
  (run_all h).bind fun _ => trivial

theorem unwrapConnection_all (h : P ⟨document, values⟩) :
    (unwrapConnection (run document values) field key).All P :=
  (run_all h).bind fun _ => trivial

end programs

/-! ### Values that are read -/

section reads
variable {arguments v : Json} {name : String}

theorem string_read {s : String} (hs : stringArg arguments name = some s)
    (hv : arguments.get name = some v) : v = .string s := by
  unfold stringArg at hs
  rw [hv, Option.bind_some] at hs
  exact Json.asStr_eq.mp hs

theorem string_allowed (h : ArgType.string.allows v) : ∃ s, v = .string s := by
  cases v with
  | string s => exact ⟨s, rfl⟩
  | null | bool | int | float | array | object => cases h

theorem bool_allowed (h : ArgType.boolean.allows v) : ∃ b, v = .bool b := by
  cases v with
  | bool b => exact ⟨b, rfl⟩
  | null | string | int | float | array | object => cases h

/-- An optional text of the declared type is handed on. -/
theorem option_read (hv : arguments.get name = some v) (h : ArgType.string.allows v) :
    Json.ofOption (stringArg arguments name) = v := by
  obtain ⟨s, rfl⟩ := string_allowed h
  unfold stringArg
  rw [hv]
  rfl

theorem i64_read {n : ℤ} (hn : i64Arg arguments name = some n) (hv : arguments.get name = some v) :
    v = .int n := by
  unfold i64Arg at hn
  rw [hv, Option.bind_some] at hn
  exact Json.asI64_eq hn

/-- A list of texts only is handed on. -/
theorem ids_read {ids : List String} (hids : idList arguments name = some ids)
    (hv : arguments.get name = some v) (h : ArgType.strings.allows v) : Json.strings ids = v := by
  unfold idList at hids
  rw [hv] at hids
  cases v with
  | array items =>
      have hmap : (items.filterMap Json.asStr).map Json.string = items := by
        have hall : ∀ item ∈ items, item.asStr.isSome := List.all_eq_true.mp h
        clear h hv hids
        induction items with
        | nil => rfl
        | cons item items ih =>
            obtain ⟨s, hs⟩ := Option.isSome_iff_exists.mp (hall item List.mem_cons_self)
            rw [List.filterMap_cons_some hs, List.map_cons,
              ih fun x hx => hall x (List.mem_cons_of_mem _ hx), Json.asStr_eq.mp hs]
      have hids' : items.filterMap Json.asStr = ids := by
        simp only [Option.bind_eq_bind, Option.bind_some, Json.asArray] at hids
        split at hids
        · cases hids
        · exact Option.some.inj hids
      rw [Json.strings, ← hids', hmap]
  | null | bool | int | float | string | object => cases h

/-- A quantity is handed on as its text. -/
theorem quantity_read {tool q : String} (hq : quantityArg arguments = some q)
    (hv : arguments.get "quantity" = some v) : handedOn tool "quantity" v = .string q := by
  unfold quantityArg at hq
  rw [hv] at hq
  cases v with
  | string s =>
      obtain rfl := Option.some.inj hq
      unfold handedOn
      simp
  | int n =>
      obtain rfl := Option.some.inj hq
      rfl
  | float text =>
      obtain rfl := Option.some.inj hq
      rfl
  | null | bool | array | object => cases hq

end reads

/-! ### One tool -/

section tool
variable {tool : ToolSchema} {arguments v : Json} {name a s : String} {request : Request}

theorem allowed_of {t : ArgType} (h : ¬ tool.Mistyped arguments) (ha : (a, t) ∈ tool.properties)
    (hv : arguments.get a = some v) (hnull : v.isNull = false) : t.allows v = true := by
  rw [← Bool.not_eq_false]
  exact fun htype => h ⟨_, ha, v, hv, hnull, htype⟩

theorem readable_of {t : ArgType} (h : ¬ tool.Unreadable arguments) (ha : (a, t) ∈ tool.properties)
    (hreq : a ∈ tool.required) : readable arguments (a, t) = true := by
  rw [← Bool.not_eq_false]
  exact fun hnone => h ⟨_, ha, hreq, hnone⟩

theorem readable_string (h : ¬ tool.Unreadable arguments) (ha : (a, .string) ∈ tool.properties)
    (hreq : a ∈ tool.required) (hq : a ≠ "quantity") : ∃ s, stringArg arguments a = some s := by
  have hread := readable_of h ha hreq
  simp only [readable, if_neg hq] at hread
  exact Option.isSome_iff_exists.mp hread

/-- If every argument is a required text, none can be of a wrong type and still be read. -/
theorem unreadable_of_mistyped (h : tool.Mistyped arguments)
    (htexts : ∀ a ∈ tool.properties, a.2 = .string ∧ a.1 ∈ tool.required ∧ a.1 ≠ "quantity") :
    tool.Unreadable arguments := by
  obtain ⟨a, ha, v, hv, -, htype⟩ := h
  obtain ⟨hstring, hreq, hq⟩ := htexts a ha
  refine ⟨a, ha, hreq, ?_⟩
  rw [hstring] at htype
  have hnone : stringArg arguments a.1 = none := by
    rw [Option.eq_none_iff_forall_not_mem]
    intro s hs
    rw [string_read hs hv] at htype
    cases htype
  simp only [readable, hstring, if_neg hq, hnone, Option.isSome_none]

/-- The tools that hand texts on as they are. -/
structure Plain (tool : String) : Prop where
  project : tool ≠ "update_project"
  recipients : tool ≠ "update_ticket_recipients"

theorem carries_plain (h : Plain name) (hgiven : request.given a = some (handedOn name a v)) :
    Carries name a v request := by
  have hrecipients : ¬ (name = "update_ticket_recipients" ∧ (a = "list" ∨ a = "action")) :=
    fun hname => h.recipients hname.1
  unfold Carries
  rw [if_neg hrecipients, hgiven]

theorem handedOn_string (h : name ≠ "update_project") (s : String) :
    handedOn name a (.string s) = .string s := by
  have hproject : ¬ (s = "" ∧ name = "update_project" ∧
      a ∈ ["clientAbn", "clientAddress", "reference"]) := fun hname => h hname.2.1
  rw [handedOn, if_neg hproject]

/-- A required text is carried. -/
theorem carries_string (h : Plain name) (hs : stringArg arguments a = some s)
    (hv : arguments.get a = some v) (hgiven : request.given a = some (.string s)) :
    Carries name a v request := by
  rw [string_read hs hv]
  exact carries_plain h (by rw [hgiven, handedOn_string h.project])

/-- An optional text of the declared type is carried. -/
theorem carries_option (h : Plain name) (hallow : ArgType.string.allows v)
    (hv : arguments.get a = some v)
    (hgiven : request.given a = some (.ofOption (stringArg arguments a))) :
    Carries name a v request := by
  rw [option_read hv hallow] at hgiven
  obtain ⟨s, rfl⟩ := string_allowed hallow
  exact carries_plain h (by rw [hgiven, handedOn_string h.project])

/-- A query carries nothing. -/
theorem query_carries (h : request.document.operation = .query) :
    CarriesAll tool arguments request := by
  intro hmutation
  rw [h] at hmutation
  cases hmutation

/-- What a call of a tool comes to: it fails at once if a required argument cannot be read; otherwise
it does not refuse the call, and its mutations carry what is passed if all is of the declared types. -/
inductive Handled (tool : ToolSchema) (arguments : Json) (p : ToolProg) : Prop
  | refused (hread : tool.Unreadable arguments) {e : List String} (h : p = .fail e)
  | ran (hread : ¬ tool.Unreadable arguments) (hrun : tool.Mistyped arguments → ¬ Refuses p)
      (hcarried : ¬ tool.Mistyped arguments → p.All (CarriesAll tool arguments))

theorem Handled.passes {p : ToolProg} (h : Handled tool arguments p) :
    PassesArguments tool arguments p ↔ ¬ tool.Mistyped arguments ∨ tool.Unreadable arguments := by
  cases h with
  | refused hread h =>
      subst h
      exact iff_of_true ⟨fun _ => trivial, trivial⟩ (Or.inr hread)
  | ran hread hrun hcarried =>
      constructor
      · intro hpasses
        exact Or.inl fun htype => hrun htype (hpasses.refuses htype)
      · intro htype
        have htype' := htype.resolve_right hread
        exact ⟨fun h => absurd h htype', hcarried htype'⟩

end tool

/-! ### The tools for tickets -/

section tickets
variable {tool name field key : String}

theorem listTickets_handled (arguments : Json) :
    Handled ⟨"list_tickets", [("instanceId", .string), ("status", .string), ("assignedToMe", .boolean),
      ("assignedTo", .string), ("first", .integer), ("after", .string)], ["instanceId"]⟩
      arguments (listTickets arguments) := by
  unfold listTickets
  split
  · rename_i hid
    exact .refused (by simp [ToolSchema.Unreadable, readable, hid]) rfl
  · rename_i id hid
    refine .ran (by simp [ToolSchema.Unreadable, readable, hid]) (fun _ => ?_) fun _ => ?_
    · unfold listAssignee
      split
      · exact fun h => unwrapConnection_not_refuses (h.2 (.ok .null))
      · exact unwrapConnection_not_refuses
    · refine Prog.All.bind ?_ fun assignedTo => unwrapConnection_all (query_carries rfl)
      unfold listAssignee
      split
      · exact (run_all (query_carries rfl)).bind fun _ => trivial
      · trivial

theorem getTicket_handled (arguments : Json) :
    Handled ⟨"get_ticket", [("ticketId", .string)], ["ticketId"]⟩ arguments (getTicket arguments) := by
  unfold getTicket
  split
  · rename_i hid
    exact .refused (by simp [ToolSchema.Unreadable, readable, hid]) rfl
  · rename_i id hid
    have hread : ¬ ToolSchema.Unreadable ⟨"get_ticket", [("ticketId", .string)], ["ticketId"]⟩
        arguments := by simp [ToolSchema.Unreadable, readable, hid]
    refine .ran hread (fun htype => absurd (unreadable_of_mistyped htype (by simp)) hread) fun _ => ?_
    refine (run_all (query_carries rfl)).bind fun data => ?_
    dsimp only
    split <;> trivial

theorem bodyTool_handled (hplain : Plain tool) (arguments : Json) :
    Handled ⟨tool, [("ticketId", .string), ("body", .string)], ["ticketId", "body"]⟩ arguments
      (bodyTool name field arguments) := by
  unfold bodyTool
  split
  · rename_i id body hid hbody
    refine .ran (by simp [ToolSchema.Unreadable, readable, hid, hbody])
      (fun _ => rename_not_refuses) fun _ => rename_all fun _ a ha v hv _ => ?_
    simp only [List.mem_cons, List.not_mem_nil, or_false] at ha
    rcases ha with rfl | rfl
    · exact carries_string hplain hid hv rfl
    · exact carries_string hplain hbody hv rfl
  · rename_i hnone
    refine .refused (by_contra fun hread => ?_) rfl
    obtain ⟨id, hid⟩ := readable_string hread (a := "ticketId") (by simp) (by simp) (by decide)
    obtain ⟨body, hbody⟩ := readable_string hread (a := "body") (by simp) (by simp) (by decide)
    exact hnone id body hid hbody

theorem statusTool_handled (arguments : Json) :
    Handled ⟨"set_ticket_status", [("ticketId", .string), ("status", .string)],
      ["ticketId", "status"]⟩ arguments (statusTool arguments) := by
  have hplain : Plain "set_ticket_status" := ⟨by decide, by decide⟩
  unfold statusTool
  split
  · rename_i id status hid hstatus
    refine .ran (by simp [ToolSchema.Unreadable, readable, hid, hstatus])
      (fun _ => rename_not_refuses) fun _ => rename_all fun _ a ha v hv _ => ?_
    simp only [List.mem_cons, List.not_mem_nil, or_false] at ha
    rcases ha with rfl | rfl
    · exact carries_string hplain hid hv rfl
    · exact carries_string hplain hstatus hv rfl
  · rename_i hnone
    refine .refused (by_contra fun hread => ?_) rfl
    obtain ⟨id, hid⟩ := readable_string hread (a := "ticketId") (by simp) (by simp) (by decide)
    obtain ⟨status, hstatus⟩ := readable_string hread (a := "status") (by simp) (by simp) (by decide)
    exact hnone id status hid hstatus

theorem assignTool_handled (arguments : Json) :
    Handled ⟨"assign_ticket", [("ticketId", .string), ("userId", .string)], ["ticketId"]⟩ arguments
      (assignTool arguments) := by
  have hplain : Plain "assign_ticket" := ⟨by decide, by decide⟩
  unfold assignTool
  split
  · rename_i hid
    exact .refused (by simp [ToolSchema.Unreadable, readable, hid]) rfl
  · rename_i id hid
    refine .ran (by simp [ToolSchema.Unreadable, readable, hid]) (fun _ => rename_not_refuses)
      fun htype => rename_all fun _ a ha v hv hnull => ?_
    have hallow := allowed_of htype ha hv hnull
    simp only [List.mem_cons, List.not_mem_nil, or_false] at ha
    rcases ha with rfl | rfl
    · exact carries_string hplain hid hv rfl
    · exact carries_option hplain hallow hv rfl

theorem updateRecipients_handled (arguments : Json) :
    Handled ⟨"update_ticket_recipients", [("ticketId", .string), ("list", .string),
      ("action", .string), ("email", .string)], ["ticketId", "list", "action", "email"]⟩ arguments
      (updateRecipients arguments) := by
  unfold updateRecipients
  split
  · rename_i id list action email hid hlist haction hemail
    have hread : ¬ ToolSchema.Unreadable ⟨"update_ticket_recipients", [("ticketId", .string),
        ("list", .string), ("action", .string), ("email", .string)],
        ["ticketId", "list", "action", "email"]⟩ arguments := by
      simp [ToolSchema.Unreadable, readable, hid, hlist, haction, hemail]
    refine .ran hread (fun htype => absurd (unreadable_of_mistyped htype (by simp)) hread) fun _ => ?_
    split
    · trivial
    · rename_i field hfield
      refine rename_all fun _ a ha v hv _ => ?_
      simp only [List.mem_cons, List.not_mem_nil, or_false] at ha
      unfold Carries
      rcases ha with rfl | rfl | rfl | rfl
      · rw [string_read hid hv, if_neg (by decide), handedOn_string (by decide)]
        rfl
      · rw [string_read hlist hv, if_pos (by decide)]
        exact ⟨list, action, hfield, rfl⟩
      · rw [string_read haction hv, if_pos (by decide)]
        exact ⟨list, action, hfield, rfl⟩
      · rw [string_read hemail hv, if_neg (by decide), handedOn_string (by decide)]
        rfl
  · rename_i hnone
    refine .refused (by_contra fun hread => ?_) rfl
    obtain ⟨id, hid⟩ := readable_string hread (a := "ticketId") (by simp) (by simp) (by decide)
    obtain ⟨list, hlist⟩ := readable_string hread (a := "list") (by simp) (by simp) (by decide)
    obtain ⟨action, haction⟩ := readable_string hread (a := "action") (by simp) (by simp) (by decide)
    obtain ⟨email, hemail⟩ := readable_string hread (a := "email") (by simp) (by simp) (by decide)
    exact hnone id list action email hid hlist haction hemail

theorem listInstanceMembers_handled (arguments : Json) :
    Handled ⟨"list_instance_members", [("instanceId", .string)], ["instanceId"]⟩ arguments
      (listInstanceMembers arguments) := by
  unfold listInstanceMembers
  split
  · rename_i hid
    exact .refused (by simp [ToolSchema.Unreadable, readable, hid]) rfl
  · rename_i id hid
    have hread : ¬ ToolSchema.Unreadable ⟨"list_instance_members", [("instanceId", .string)],
        ["instanceId"]⟩ arguments := by simp [ToolSchema.Unreadable, readable, hid]
    refine .ran hread (fun htype => absurd (unreadable_of_mistyped htype (by simp)) hread) fun _ => ?_
    refine (run_all (query_carries rfl)).bind fun data => ?_
    dsimp only
    split
    · trivial
    · exact (run_all (query_carries rfl)).bind fun _ => trivial

end tickets

end Microticket.Mcp

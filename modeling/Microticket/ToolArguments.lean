import Microticket.McpArguments

/-! # Passed arguments

For every tool, the calls that treat no passed argument as omitted are those without one of a wrong
type, and those that are refused since a required argument cannot be read (`arguments_passed`).  A paid
date that is a number is dropped, which clears the paid date (`paid_date_dropped`). -/

namespace Microticket.Mcp

open Interleaving

/-! ### The tools for invoicing -/

section invoicing
variable {tool name field key missing : String}

theorem listProjects_handled (arguments : Json) :
    Handled ⟨"list_projects", [("instanceId", .string), ("includeArchived", .boolean)],
      ["instanceId"]⟩ arguments (listProjects arguments) := by
  unfold listProjects
  split
  · rename_i hid
    exact .refused (by simp [ToolSchema.Unreadable, readable, hid]) rfl
  · rename_i id hid
    exact .ran (by simp [ToolSchema.Unreadable, readable, hid]) (fun _ => rename_not_refuses)
      fun _ => rename_all (query_carries rfl)

theorem listTool_handled {filterType fields : String} (arguments : Json) :
    Handled ⟨tool, [("instanceId", .string), ("projectId", .string), ("filter", .string),
      ("first", .integer), ("after", .string)], ["instanceId"]⟩ arguments
      (listTool name filterType field fields key arguments) := by
  unfold listTool
  split
  · rename_i hid
    exact .refused (by simp [ToolSchema.Unreadable, readable, hid]) rfl
  · rename_i id hid
    exact .ran (by simp [ToolSchema.Unreadable, readable, hid]) (fun _ => unwrapConnection_not_refuses)
      fun _ => unwrapConnection_all (query_carries rfl)

theorem createProjectTool_handled (arguments : Json) :
    Handled ⟨"create_project", [("instanceId", .string), ("name", .string), ("clientName", .string),
      ("clientAbn", .string), ("clientAddress", .string), ("reference", .string)],
      ["instanceId", "name", "clientName"]⟩ arguments (createProjectTool arguments) := by
  have hplain : Plain "create_project" := ⟨by decide, by decide⟩
  unfold createProjectTool
  split
  · rename_i id name client hid hname hclient
    refine .ran (by simp [ToolSchema.Unreadable, readable, hid, hname, hclient])
      (fun _ => rename_not_refuses) fun htype => rename_all fun _ a ha v hv hnull => ?_
    have hallow := allowed_of htype ha hv hnull
    simp only [List.mem_cons, List.not_mem_nil, or_false] at ha
    rcases ha with rfl | rfl | rfl | rfl | rfl | rfl
    · exact carries_string hplain hid hv rfl
    · exact carries_string hplain hname hv rfl
    · exact carries_string hplain hclient hv rfl
    · exact carries_option hplain hallow hv rfl
    · exact carries_option hplain hallow hv rfl
    · exact carries_option hplain hallow hv rfl
  · rename_i hnone
    refine .refused (by_contra fun hread => ?_) rfl
    obtain ⟨id, hid⟩ := readable_string hread (a := "instanceId") (by simp) (by simp) (by decide)
    obtain ⟨name, hname⟩ := readable_string hread (a := "name") (by simp) (by simp) (by decide)
    obtain ⟨client, hclient⟩ :=
      readable_string hread (a := "clientName") (by simp) (by simp) (by decide)
    exact hnone id name client hid hname hclient

/-- A field of the project that is passed as a text. -/
theorem pick_given {arguments current v : Json} {a : String} {request : Request}
    (hv : arguments.get a = some v) (hallow : ArgType.string.allows v)
    (ha : a ∈ ["clientAbn", "clientAddress", "reference"])
    (hgiven : request.given a = some (pick arguments current a)) :
    Carries "update_project" a v request := by
  obtain ⟨s, rfl⟩ := string_allowed hallow
  have hs : stringArg arguments a = some s := by
    unfold stringArg
    rw [hv]
    rfl
  unfold Carries
  rw [if_neg (by simp), hgiven, handedOn, pick, hs]
  by_cases hempty : s = ""
  · subst hempty
    rw [if_pos ⟨rfl, rfl, ha⟩]
    rfl
  · rw [if_neg fun h => hempty h.1]
    split
    · rename_i hnil
      exact absurd (Option.some.inj hnil) hempty
    · rename_i s' _ hs'
      rw [Option.some.inj hs']
    · rename_i hnone
      cases hnone

/-- A text that the project tool hands on as it is. -/
theorem project_given {s a : String} {request : Request}
    (ha : a ∉ ["clientAbn", "clientAddress", "reference"])
    (hgiven : request.given a = some (.string s)) :
    Carries "update_project" a (.string s) request := by
  unfold Carries
  rw [if_neg (by simp), hgiven, handedOn, if_neg fun h => ha h.2.2]

theorem pickRequired_given {arguments current v : Json} {a : String} {request : Request}
    (hv : arguments.get a = some v) (hallow : ArgType.string.allows v)
    (ha : a ∉ ["clientAbn", "clientAddress", "reference"])
    (hgiven : request.given a = some (pickRequired arguments current a)) :
    Carries "update_project" a v request := by
  obtain ⟨s, rfl⟩ := string_allowed hallow
  have hs : stringArg arguments a = some s := by
    unfold stringArg
    rw [hv]
    rfl
  rw [pickRequired, hs] at hgiven
  exact project_given ha hgiven

theorem updateProjectTool_handled (arguments : Json) :
    Handled ⟨"update_project", [("id", .string), ("name", .string), ("clientName", .string),
      ("clientAbn", .string), ("clientAddress", .string), ("reference", .string),
      ("archived", .boolean)], ["id"]⟩ arguments (updateProjectTool arguments) := by
  unfold updateProjectTool
  split
  · rename_i hid
    exact .refused (by simp [ToolSchema.Unreadable, readable, hid]) rfl
  · rename_i id hid
    refine .ran (by simp [ToolSchema.Unreadable, readable, hid]) (fun _ h => ?_) fun htype => ?_
    · -- a project is found, so the mutation is run
      have hrun := h.2 (.ok (.object [("project", .object [])]))
      exact rename_not_refuses hrun
    · refine (run_all (query_carries rfl)).bind fun data => ?_
      dsimp only
      split
      · trivial
      · refine rename_all fun _ a ha v hv hnull => ?_
        have hallow := allowed_of htype ha hv hnull
        simp only [List.mem_cons, List.not_mem_nil, or_false] at ha
        rcases ha with rfl | rfl | rfl | rfl | rfl | rfl | rfl
        · rw [string_read hid hv]
          exact project_given (by decide) rfl
        · exact pickRequired_given hv hallow (by decide) rfl
        · exact pickRequired_given hv hallow (by decide) rfl
        · exact pick_given hv hallow (by decide) rfl
        · exact pick_given hv hallow (by decide) rfl
        · exact pick_given hv hallow (by decide) rfl
        · obtain ⟨b, rfl⟩ := bool_allowed hallow
          have hb : boolArg arguments "archived" = some b := by
            unfold boolArg
            rw [hv]
            rfl
          unfold Carries
          rw [if_neg (by simp), hb]
          rfl

theorem itemTool_handled {owner : String} (hplain : Plain tool)
    (howner : owner = "projectId" ∨ owner = "id") (arguments : Json) :
    Handled ⟨tool, [(owner, .string), ("date", .string), ("description", .string),
      ("quantity", .string), ("unitPriceCents", .integer)],
      [owner, "date", "description", "quantity", "unitPriceCents"]⟩ arguments
      (itemTool name owner field missing arguments) := by
  have hquantity : owner ≠ "quantity" := by rcases howner with rfl | rfl <;> decide
  unfold itemTool
  split
  · rename_i id date description quantity price hid hdate hdescription hq hprice
    refine .ran (by simp [ToolSchema.Unreadable, readable, hid, hdate, hdescription, hq, hprice, hquantity])
      (fun _ => rename_not_refuses) fun _ => rename_all fun _ a ha v hv _ => ?_
    simp only [List.mem_cons, List.not_mem_nil, or_false] at ha
    rcases ha with rfl | rfl | rfl | rfl | rfl
    · refine carries_string hplain hid hv ?_
      rcases howner with rfl | rfl <;> rfl
    · refine carries_string hplain hdate hv ?_
      rcases howner with rfl | rfl <;> rfl
    · refine carries_string hplain hdescription hv ?_
      rcases howner with rfl | rfl <;> rfl
    · refine carries_plain hplain ?_
      rw [quantity_read hq hv]
      rcases howner with rfl | rfl <;> rfl
    · refine carries_plain hplain ?_
      rw [i64_read hprice hv]
      rcases howner with rfl | rfl <;> rfl
  · rename_i hnone
    refine .refused (by_contra fun hread => ?_) rfl
    obtain ⟨id, hid⟩ := readable_string hread (a := owner) (by simp) (by simp) hquantity
    obtain ⟨date, hdate⟩ := readable_string hread (a := "date") (by simp) (by simp) (by decide)
    obtain ⟨description, hdescription⟩ :=
      readable_string hread (a := "description") (by simp) (by simp) (by decide)
    have hq := readable_of hread (a := "quantity") (t := .string) (by simp) (by simp)
    have hprice := readable_of hread (a := "unitPriceCents") (t := .integer) (by simp) (by simp)
    obtain ⟨quantity, hquantity⟩ := Option.isSome_iff_exists.mp hq
    obtain ⟨price, hprice⟩ := Option.isSome_iff_exists.mp hprice
    exact hnone id date description quantity price hid hdate hdescription hquantity hprice

theorem idTool_handled {argument : String} (hplain : Plain tool) (hq : argument ≠ "quantity")
    (arguments : Json) : Handled ⟨tool, [(argument, .string)], [argument]⟩ arguments
      (idTool name argument field key arguments) := by
  unfold idTool
  split
  · rename_i hid
    exact .refused (by simp [ToolSchema.Unreadable, readable, hid, hq]) rfl
  · rename_i id hid
    refine .ran (by simp [ToolSchema.Unreadable, readable, hid, hq]) (fun _ => rename_not_refuses)
      fun _ => rename_all fun _ a ha v hv _ => ?_
    obtain rfl := List.mem_singleton.mp ha
    exact carries_string hplain hid hv (by simp [Request.given])

theorem getInvoice_handled (arguments : Json) :
    Handled ⟨"get_invoice", [("invoiceId", .string)], ["invoiceId"]⟩ arguments
      (getInvoice arguments) := by
  unfold getInvoice
  split
  · rename_i hid
    exact .refused (by simp [ToolSchema.Unreadable, readable, hid]) rfl
  · rename_i id hid
    have hread : ¬ ToolSchema.Unreadable ⟨"get_invoice", [("invoiceId", .string)], ["invoiceId"]⟩
        arguments := by simp [ToolSchema.Unreadable, readable, hid]
    refine .ran hread (fun htype => absurd (unreadable_of_mistyped htype (by simp)) hread) fun _ => ?_
    refine (run_all (query_carries rfl)).bind fun data => ?_
    dsimp only
    split <;> trivial

theorem itemsTool_handled {owner : String} (hplain : Plain tool)
    (howner : owner = "projectId" ∨ owner = "invoiceId") (arguments : Json) :
    Handled ⟨tool, [(owner, .string), ("itemIds", .strings)], [owner, "itemIds"]⟩ arguments
      (itemsTool name owner field missing arguments) := by
  have hquantity : owner ≠ "quantity" := by rcases howner with rfl | rfl <;> decide
  unfold itemsTool
  split
  · rename_i id ids hid hids
    refine .ran (by simp [ToolSchema.Unreadable, readable, hid, hids, hquantity])
      (fun _ => rename_not_refuses) fun htype => rename_all fun _ a ha v hv hnull => ?_
    have hallow := allowed_of htype ha hv hnull
    simp only [List.mem_cons, List.not_mem_nil, or_false] at ha
    rcases ha with rfl | rfl
    · refine carries_string hplain hid hv ?_
      rcases howner with rfl | rfl <;> rfl
    · refine carries_plain hplain ?_
      rw [← ids_read hids hv hallow]
      rcases howner with rfl | rfl <;> rfl
  · rename_i hnone
    refine .refused (by_contra fun hread => ?_) rfl
    obtain ⟨id, hid⟩ := readable_string hread (a := owner) (by simp) (by simp) hquantity
    have hids := readable_of hread (a := "itemIds") (t := .strings) (by simp) (by simp)
    obtain ⟨ids, hids⟩ := Option.isSome_iff_exists.mp hids
    exact hnone id ids hid hids

theorem finalizeTool_handled (arguments : Json) :
    Handled ⟨"finalize_invoice", [("invoiceId", .string), ("issueDate", .string)],
      ["invoiceId", "issueDate"]⟩ arguments (finalizeTool arguments) := by
  have hplain : Plain "finalize_invoice" := ⟨by decide, by decide⟩
  unfold finalizeTool
  split
  · rename_i id date hid hdate
    refine .ran (by simp [ToolSchema.Unreadable, readable, hid, hdate])
      (fun _ => rename_not_refuses) fun _ => rename_all fun _ a ha v hv _ => ?_
    simp only [List.mem_cons, List.not_mem_nil, or_false] at ha
    rcases ha with rfl | rfl
    · exact carries_string hplain hid hv rfl
    · exact carries_string hplain hdate hv rfl
  · rename_i hnone
    refine .refused (by_contra fun hread => ?_) rfl
    obtain ⟨id, hid⟩ := readable_string hread (a := "invoiceId") (by simp) (by simp) (by decide)
    obtain ⟨date, hdate⟩ := readable_string hread (a := "issueDate") (by simp) (by simp) (by decide)
    exact hnone id date hid hdate

theorem paidTool_handled (arguments : Json) :
    Handled ⟨"set_invoice_paid", [("invoiceId", .string), ("paidDate", .string)], ["invoiceId"]⟩
      arguments (paidTool arguments) := by
  have hplain : Plain "set_invoice_paid" := ⟨by decide, by decide⟩
  unfold paidTool
  split
  · rename_i hid
    exact .refused (by simp [ToolSchema.Unreadable, readable, hid]) rfl
  · rename_i id hid
    refine .ran (by simp [ToolSchema.Unreadable, readable, hid]) (fun _ => rename_not_refuses)
      fun htype => rename_all fun _ a ha v hv hnull => ?_
    have hallow := allowed_of htype ha hv hnull
    simp only [List.mem_cons, List.not_mem_nil, or_false] at ha
    rcases ha with rfl | rfl
    · exact carries_string hplain hid hv rfl
    · exact carries_option hplain hallow hv rfl

end invoicing

/-! ### All tools -/

/-- What a call of any tool comes to. -/
theorem dispatchTool_handled {tool : ToolSchema} (htool : tool ∈ ticketsCatalogue ++ invoicingCatalogue)
    (arguments : Json) : Handled tool arguments (dispatchTool tool.name arguments) := by
  have howner : "invoiceId" = "projectId" ∨ "invoiceId" = "invoiceId" := Or.inr rfl
  simp only [ticketsCatalogue, invoicingCatalogue, List.cons_append, List.nil_append, List.mem_cons,
    List.not_mem_nil, or_false] at htool
  rcases htool with rfl | rfl | rfl | rfl | rfl | rfl | rfl | rfl | rfl | rfl | rfl | rfl | rfl | rfl |
    rfl | rfl | rfl | rfl | rfl | rfl | rfl | rfl | rfl | rfl
  · exact listTickets_handled arguments
  · exact getTicket_handled arguments
  · exact bodyTool_handled ⟨by decide, by decide⟩ arguments
  · exact bodyTool_handled ⟨by decide, by decide⟩ arguments
  · exact statusTool_handled arguments
  · exact assignTool_handled arguments
  · exact updateRecipients_handled arguments
  · exact listInstanceMembers_handled arguments
  · exact listProjects_handled arguments
  · exact createProjectTool_handled arguments
  · exact updateProjectTool_handled arguments
  · exact listTool_handled arguments
  · exact itemTool_handled ⟨by decide, by decide⟩ (Or.inl rfl) arguments
  · exact itemTool_handled ⟨by decide, by decide⟩ (Or.inr rfl) arguments
  · exact idTool_handled ⟨by decide, by decide⟩ (by decide) arguments
  · exact listTool_handled arguments
  · exact getInvoice_handled arguments
  · exact itemsTool_handled ⟨by decide, by decide⟩ (Or.inl rfl) arguments
  · exact itemsTool_handled ⟨by decide, by decide⟩ howner arguments
  · exact itemsTool_handled ⟨by decide, by decide⟩ howner arguments
  · exact idTool_handled ⟨by decide, by decide⟩ (by decide) arguments
  · exact finalizeTool_handled arguments
  · exact paidTool_handled arguments
  · exact idTool_handled ⟨by decide, by decide⟩ (by decide) arguments

/-- A call treats no passed argument as omitted if and only if every passed argument is of the declared
type, or a required one cannot be read. -/
theorem arguments_passed {tool : ToolSchema} (htool : tool ∈ ticketsCatalogue ++ invoicingCatalogue)
    (arguments : Json) : PassesArguments tool arguments (dispatchTool tool.name arguments) ↔
      ¬ tool.Mistyped arguments ∨ tool.Unreadable arguments :=
  (dispatchTool_handled htool arguments).passes

/-- The schema of `set_invoice_paid`. -/
def paidSchema : ToolSchema :=
  ⟨"set_invoice_paid", [("invoiceId", .string), ("paidDate", .string)], ["invoiceId"]⟩

/-- A call of `set_invoice_paid`. -/
def paidArguments (paidDate : Json) : Json :=
  .object [("invoiceId", .string "v1"), ("paidDate", paidDate)]

theorem arguments_passed_sample :
    PassesArguments paidSchema (paidArguments (.string "2026-01-31"))
      (dispatchTool "set_invoice_paid" (paidArguments (.string "2026-01-31"))) := by
  have htool : paidSchema ∈ ticketsCatalogue ++ invoicingCatalogue := by
    simp [paidSchema, ticketsCatalogue, invoicingCatalogue]
  refine (arguments_passed htool _).mpr (Or.inl ?_)
  rintro ⟨a, ha, v, hv, -, htype⟩
  simp only [paidSchema, List.mem_cons, List.not_mem_nil, or_false] at ha
  rcases ha with rfl | rfl
  · obtain rfl := Option.some.inj hv
    cases htype
  · obtain rfl := Option.some.inj hv
    cases htype

/-- A paid date that is a number is dropped: the mutation is run with a null. -/
theorem paid_date_dropped :
    (∃ request k, dispatchTool "set_invoice_paid" (paidArguments (.int 20260131)) = .call request k ∧
      request.document.operation = .mutation ∧ request.given "paidDate" = some .null) ∧
    ¬ PassesArguments paidSchema (paidArguments (.int 20260131))
      (dispatchTool "set_invoice_paid" (paidArguments (.int 20260131))) := by
  refine ⟨⟨_, _, rfl, rfl, rfl⟩, fun hpasses => ?_⟩
  have htype : paidSchema.Mistyped (paidArguments (.int 20260131)) :=
    ⟨("paidDate", .string), by simp [paidSchema], .int 20260131, rfl, rfl, rfl⟩
  exact rename_not_refuses (hpasses.refuses htype)

end Microticket.Mcp

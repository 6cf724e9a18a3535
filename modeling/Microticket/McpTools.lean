import Microticket.JsonValues
import Microticket.Prog

/-! # Tools

`mcp/tool.rs`, `mcp/tickets.rs` and `mcp/invoicing.rs`: every tool takes a JSON value with its arguments
and runs fixed GraphQL documents, as the caller.  What GraphQL answers is left open.

An argument is read with `stringArg` and its like, which give `none` for an argument that is absent and
for one of another type. -/

namespace Microticket.Mcp

open Interleaving

/-! ### Documents -/

inductive Operation where
  | query
  | mutation
  deriving DecidableEq

/-- A GraphQL document with one root field; an argument is given the variable beside it. -/
structure Document where
  operation : Operation
  name : String
  parameters : List (String × String)
  field : String
  arguments : List (String × String)
  selection : String

/-- What `ToolContext::run` hands to the schema. -/
structure Request where
  document : Document
  values : List (String × Json)

/-- A tool; it ends with `ToolOutcome::Ok`, or fails with the messages of `ToolOutcome::Error`. -/
abbrev ToolProg : Type := Prog Request (fun _ => Except (List String) Json) (List String) Json

/-- `ToolContext::run`. -/
def run (document : Document) (values : List (String × Json)) : ToolProg :=
  .call ⟨document, values⟩ fun
    | .ok data => .done data
    | .error e => .fail e

/-- `missing_argument`. -/
def missingArgument (name : String) : ToolProg := .fail [s!"Missing or invalid \"{name}\" argument"]

/-- `rename`. -/
def rename (result : ToolProg) (field key : String) : ToolProg := do
  let data ← result
  return .object [(key, data.index field)]

/-- `unwrap_connection`. -/
def unwrapConnection (result : ToolProg) (field key : String) : ToolProg := do
  let data ← result
  let conn := data.index field
  let nodes := ((conn.index "edges").asArray.map fun edges => edges.map (·.index "node")).getD []
  return .object [(key, .array nodes), ("hasNextPage", (conn.index "pageInfo").index "hasNextPage"),
    ("endCursor", (conn.index "pageInfo").index "endCursor")]

/-! ### Arguments -/

/-- `string_arg`. -/
def stringArg (arguments : Json) (name : String) : Option String :=
  (arguments.get name).bind Json.asStr

/-- `quantity_arg`. -/
def quantityArg (arguments : Json) : Option String :=
  match arguments.get "quantity" with
  | some (.string s) => some s
  | some (.int n) => some (toString n)
  | some (.float text) => some text
  | _ => none

/-- `id_list`. -/
def idList (arguments : Json) (name : String) : Option (List String) := do
  let items := (← (← arguments.get name).asArray).filterMap Json.asStr
  if items.isEmpty then none else some items

/-- `arguments.get(name).and_then(Value::as_i64)`. -/
def i64Arg (arguments : Json) (name : String) : Option ℤ := (arguments.get name).bind Json.asI64

/-- `arguments.get(name).and_then(Value::as_bool)`. -/
def boolArg (arguments : Json) (name : String) : Option Bool := (arguments.get name).bind Json.asBool

def defaultPageSize : ℤ := 20
def maxPageSize : ℤ := 50

/-- `page_size`. -/
def pageSize (arguments : Json) : ℤ :=
  max 1 (min maxPageSize ((i64Arg arguments "first").getD defaultPageSize))

/-! ### Tickets -/

def ticketFields : String := "id instanceId number subject status requesterEmails ccEmails " ++
  "assigneeUserId createdAt updatedAt lastActivityAt hasAttachments"

def messageFields : String := "id kind authorUserId fromEmail toEmails ccEmails bodyText " ++
  "createdAt attachments \x7b filename contentType size \x7d"

/-- The selection of a connection. -/
def connection (fields : String) : String :=
  "edges \x7b node \x7b " ++ fields ++ " \x7d \x7d pageInfo \x7b hasNextPage endCursor \x7d"

/-- The `assigned_to` of `list_tickets`. -/
def listAssignee (arguments : Json) :
    Prog Request (fun _ => Except (List String) Json) (List String) (Option String) :=
  if boolArg arguments "assignedToMe" = some true then do
    let data ← run ⟨.query, "McpMe", [], "me", [], "id"⟩ []
    return ((data.index "me").index "id").asStr
  else return stringArg arguments "assignedTo"

/-- `list_tickets`. -/
def listTickets (arguments : Json) : ToolProg :=
  match stringArg arguments "instanceId" with
  | none => missingArgument "instanceId"
  | some instanceId => do
      let status := (stringArg arguments "status").getD "OPEN"
      let first := pageSize arguments
      let assignedTo ← listAssignee arguments
      unwrapConnection (run ⟨.query, "McpTickets", [("instanceId", "ID!"),
          ("status", "TicketStatusFilterType!"), ("assignedTo", "ID"), ("first", "Int!"),
          ("after", "String")], "tickets", [("instanceId", "instanceId"), ("status", "status"),
          ("assignedTo", "assignedTo"), ("first", "first"), ("after", "after")],
          connection ticketFields⟩
        [("instanceId", .string instanceId), ("status", .string status),
          ("assignedTo", .ofOption assignedTo), ("first", .int first),
          ("after", .ofOption (stringArg arguments "after"))]) "tickets" "tickets"

/-- `get_ticket`. -/
def getTicket (arguments : Json) : ToolProg :=
  match stringArg arguments "ticketId" with
  | none => missingArgument "ticketId"
  | some id => do
      let data ← run ⟨.query, "McpTicket", [("id", "ID!")], "ticket", [("id", "id")],
        ticketFields ++ " messages \x7b " ++ messageFields ++ " \x7d"⟩ [("id", .string id)]
      let ticket := data.index "ticket"
      if ticket.isNull then throw ["Ticket not found (or you are not a member of its instance)"]
      return .object [("ticket", ticket.taken "messages"), ("messages", ticket.index "messages")]

/-- What `reply_to_ticket` and `add_internal_note` share. -/
def bodyTool (name field : String) (arguments : Json) : ToolProg :=
  match stringArg arguments "ticketId", stringArg arguments "body" with
  | some id, some body => rename (run ⟨.mutation, name, [("ticketId", "ID!"), ("body", "String!")],
      field, [("ticketId", "ticketId"), ("body", "body")], messageFields⟩
      [("ticketId", .string id), ("body", .string body)]) field "message"
  | _, _ => missingArgument "ticketId/body"

/-- The arm `reply_to_ticket`. -/
def replyTool : Json → ToolProg := bodyTool "McpReply" "replyToTicket"

/-- The arm `add_internal_note`. -/
def noteTool : Json → ToolProg := bodyTool "McpNote" "addInternalNote"

/-- The arm `set_ticket_status`. -/
def statusTool (arguments : Json) : ToolProg :=
  match stringArg arguments "ticketId", stringArg arguments "status" with
  | some id, some status => rename (run ⟨.mutation, "McpStatus", [("ticketId", "ID!"),
      ("status", "TicketStatusType!")], "setTicketStatus", [("ticketId", "ticketId"),
      ("status", "status")], ticketFields⟩
      [("ticketId", .string id), ("status", .string status)]) "setTicketStatus" "ticket"
  | _, _ => missingArgument "ticketId/status"

/-- The arm `assign_ticket`. -/
def assignTool (arguments : Json) : ToolProg :=
  match stringArg arguments "ticketId" with
  | none => missingArgument "ticketId"
  | some id => rename (run ⟨.mutation, "McpAssign", [("ticketId", "ID!"), ("userId", "ID")],
      "assignTicket", [("ticketId", "ticketId"), ("userId", "userId")], ticketFields⟩
      [("ticketId", .string id), ("userId", .ofOption (stringArg arguments "userId"))])
      "assignTicket" "ticket"

/-- The root field of `update_recipients`. -/
def recipientsField (list action : String) : Option String :=
  match list, action with
  | "REQUESTER", "ADD" => some "addTicketRequester"
  | "REQUESTER", "REMOVE" => some "removeTicketRequester"
  | "CC", "ADD" => some "addTicketCc"
  | "CC", "REMOVE" => some "removeTicketCc"
  | _, _ => none

/-- `update_recipients`. -/
def updateRecipients (arguments : Json) : ToolProg :=
  match stringArg arguments "ticketId", stringArg arguments "list", stringArg arguments "action",
    stringArg arguments "email" with
  | some id, some list, some action, some email =>
      match recipientsField list action with
      | none => .fail ["`list` must be REQUESTER or CC and `action` ADD or REMOVE"]
      | some field => rename (run ⟨.mutation, "McpRecipients", [("ticketId", "ID!"),
          ("email", "String!")], field, [("ticketId", "ticketId"), ("email", "email")], ticketFields⟩
          [("ticketId", .string id), ("email", .string email)]) field "ticket"
  | _, _, _, _ => missingArgument "ticketId/list/action/email"

/-- `list_instance_members`. -/
def listInstanceMembers (arguments : Json) : ToolProg :=
  match stringArg arguments "instanceId" with
  | none => missingArgument "instanceId"
  | some instanceId => do
      let memberships ← run ⟨.query, "McpSlug", [], "me", [],
        "memberships \x7b instance \x7b id slug \x7d \x7d"⟩ []
      let found := (((memberships.index "me").index "memberships").asArray.getD []).find? fun m =>
        ((m.index "instance").index "id").asStr == some instanceId
      match found.bind fun m => ((m.index "instance").index "slug").asStr with
      | none => throw ["Instance not found (or you are not a member of it)"]
      | some slug => do
          let data ← run ⟨.query, "McpMembers", [("slug", "String!")], "instance",
            [("slug", "slug")], "members \x7b role user \x7b id email name \x7d \x7d"⟩
            [("slug", .string slug)]
          return .object [("members", (data.index "instance").index "members")]

/-- `dispatch` of `mcp/tickets.rs`. -/
def ticketsDispatch (name : String) (arguments : Json) : Option ToolProg :=
  match name with
  | "list_tickets" => some (listTickets arguments)
  | "get_ticket" => some (getTicket arguments)
  | "reply_to_ticket" => some (replyTool arguments)
  | "add_internal_note" => some (noteTool arguments)
  | "set_ticket_status" => some (statusTool arguments)
  | "assign_ticket" => some (assignTool arguments)
  | "update_ticket_recipients" => some (updateRecipients arguments)
  | "list_instance_members" => some (listInstanceMembers arguments)
  | _ => none

/-! ### Invoicing -/

def projectFields : String := "id name clientName clientAbn clientAddress reference archived " ++
  "createdAt updatedAt"

def itemFields : String := "id date description quantity unitPriceCents amountCents status " ++
  "project \x7b id name \x7d"

def invoiceSummaryFields : String := "id status number displayNumber issueDate paidDate title " ++
  "reference subtotalCents gstCents totalCents currency createdAt finalizedAt " ++
  "project \x7b id name clientName \x7d"

def invoiceDetailFields : String := "id status number displayNumber issueDate paidDate title " ++
  "reference subtotalCents gstCents totalCents currency gstRegistered paymentDetails " ++
  "createdAt finalizedAt project \x7b id name clientName \x7d " ++
  "billTo \x7b name abn address \x7d seller \x7b name abn address phone email \x7d " ++
  "lines \x7b date description quantity unitPriceCents amountCents \x7d " ++
  "items \x7b id date description quantity unitPriceCents amountCents status \x7d"

/-- `list_projects`. -/
def listProjects (arguments : Json) : ToolProg :=
  match stringArg arguments "instanceId" with
  | none => missingArgument "instanceId"
  | some instanceId =>
      let includeArchived := (boolArg arguments "includeArchived").getD false
      rename (run ⟨.query, "McpProjects", [("instanceId", "ID!"), ("archived", "Boolean!")], "projects",
        [("instanceId", "instanceId"), ("includeArchived", "archived")], projectFields⟩
        [("instanceId", .string instanceId), ("archived", .bool includeArchived)]) "projects" "projects"

/-- `create_project`. -/
def createProjectTool (arguments : Json) : ToolProg :=
  match stringArg arguments "instanceId", stringArg arguments "name",
    stringArg arguments "clientName" with
  | some instanceId, some name, some clientName =>
      let input := Json.object [("name", .string name), ("clientName", .string clientName),
        ("clientAbn", .ofOption (stringArg arguments "clientAbn")),
        ("clientAddress", .ofOption (stringArg arguments "clientAddress")),
        ("reference", .ofOption (stringArg arguments "reference"))]
      rename (run ⟨.mutation, "McpCreateProject", [("instanceId", "ID!"),
        ("input", "CreateProjectInput!")], "createProject", [("instanceId", "instanceId"),
        ("input", "input")], projectFields⟩
        [("instanceId", .string instanceId), ("input", input)]) "createProject" "project"
  | _, _, _ => missingArgument "instanceId/name/clientName"

/-- `pick`. -/
def pick (arguments current : Json) (field : String) : Json :=
  match stringArg arguments field with
  | some "" => .null
  | some s => .string s
  | none => current.index field

/-- The required fields of `update_project`. -/
def pickRequired (arguments current : Json) (field : String) : Json :=
  match stringArg arguments field with
  | some s => .string s
  | none => current.index field

/-- `update_project`. -/
def updateProjectTool (arguments : Json) : ToolProg :=
  match stringArg arguments "id" with
  | none => missingArgument "id"
  | some id => do
      let data ← run ⟨.query, "McpProject", [("id", "ID!")], "project", [("id", "id")], projectFields⟩
        [("id", .string id)]
      let current := data.index "project"
      if current.isNull then throw ["Project not found (or you are not a member of its instance)"]
      let archived := (boolArg arguments "archived").getD (((current.index "archived").asBool).getD false)
      let input := Json.object [("name", pickRequired arguments current "name"),
        ("clientName", pickRequired arguments current "clientName"),
        ("clientAbn", pick arguments current "clientAbn"),
        ("clientAddress", pick arguments current "clientAddress"),
        ("reference", pick arguments current "reference"), ("archived", .bool archived)]
      rename (run ⟨.mutation, "McpUpdateProject", [("id", "ID!"), ("input", "UpdateProjectInput!")],
        "updateProject", [("id", "id"), ("input", "input")], projectFields⟩
        [("id", .string id), ("input", input)]) "updateProject" "project"

/-- What `list_items` and `list_invoices` share. -/
def listTool (name filterType field fields key : String) (arguments : Json) : ToolProg :=
  match stringArg arguments "instanceId" with
  | none => missingArgument "instanceId"
  | some instanceId => unwrapConnection (run ⟨.query, name, [("instanceId", "ID!"),
      ("projectId", "ID"), ("filter", filterType), ("first", "Int!"), ("after", "String")], field,
      [("instanceId", "instanceId"), ("projectId", "projectId"), ("filter", "filter"),
        ("first", "first"), ("after", "after")], connection fields⟩
      [("instanceId", .string instanceId),
        ("projectId", .ofOption (stringArg arguments "projectId")),
        ("filter", .string ((stringArg arguments "filter").getD "ALL")),
        ("first", .int (pageSize arguments)),
        ("after", .ofOption (stringArg arguments "after"))]) field key

/-- `list_items`. -/
def listItems : Json → ToolProg :=
  listTool "McpItems" "BillableItemFilterType!" "billableItems" itemFields "items"

/-- `list_invoices`. -/
def listInvoices : Json → ToolProg :=
  listTool "McpInvoices" "InvoiceFilterType!" "invoices" invoiceSummaryFields "invoices"

/-- What `create_item` and `update_item` share: `owner` is the id that comes beside the input. -/
def itemTool (name owner field missing : String) (arguments : Json) : ToolProg :=
  match stringArg arguments owner, stringArg arguments "date", stringArg arguments "description",
    quantityArg arguments, i64Arg arguments "unitPriceCents" with
  | some id, some date, some description, some quantity, some price =>
      let input := Json.object [("date", .string date), ("description", .string description),
        ("quantity", .string quantity), ("unitPriceCents", .int price)]
      rename (run ⟨.mutation, name, [(owner, "ID!"), ("input", "BillableItemInput!")], field,
        [(owner, owner), ("input", "input")], itemFields⟩
        [(owner, .string id), ("input", input)]) field "item"
  | _, _, _, _, _ => missingArgument missing

/-- `create_item`. -/
def createItem : Json → ToolProg := itemTool "McpCreateItem" "projectId" "createBillableItem"
  "projectId/date/description/quantity/unitPriceCents"

/-- `update_item`. -/
def updateItem : Json → ToolProg := itemTool "McpUpdateItem" "id" "updateBillableItem"
  "id/date/description/quantity/unitPriceCents"

/-- What the mutations with one id share. -/
def idTool (name argument field key : String) (arguments : Json) : ToolProg :=
  match stringArg arguments argument with
  | none => missingArgument argument
  | some id => rename (run ⟨.mutation, name, [("id", "ID!")], field, [(argument, "id")], ""⟩
      [("id", .string id)]) field key

/-- The arm `delete_billable_item`. -/
def deleteItemTool : Json → ToolProg :=
  idTool "McpDeleteItem" "id" "deleteBillableItem" "deletedId"

/-- The arm `delete_invoice`. -/
def deleteInvoiceTool : Json → ToolProg :=
  idTool "McpDeleteInvoice" "invoiceId" "deleteInvoice" "deletedId"

/-- The arm `get_invoice_pdf_url`. -/
def invoicePdfTool : Json → ToolProg :=
  idTool "McpPdf" "invoiceId" "downloadInvoicePdf" "url"

/-- The arm `get_invoice`. -/
def getInvoice (arguments : Json) : ToolProg :=
  match stringArg arguments "invoiceId" with
  | none => missingArgument "invoiceId"
  | some id => do
      let data ← run ⟨.query, "McpInvoice", [("id", "ID!")], "invoice", [("id", "id")],
        invoiceDetailFields⟩ [("id", .string id)]
      if (data.index "invoice").isNull then
        throw ["Invoice not found (or you are not a member of its instance)"]
      return .object [("invoice", data.index "invoice")]

/-- What the mutations with an id and a list of items share. -/
def itemsTool (name owner field missing : String) (arguments : Json) : ToolProg :=
  match stringArg arguments owner, idList arguments "itemIds" with
  | some id, some itemIds => rename (run ⟨.mutation, name, [(owner, "ID!"), ("itemIds", "[ID!]!")],
      field, [(owner, owner), ("itemIds", "itemIds")], invoiceDetailFields⟩
      [(owner, .string id), ("itemIds", .strings itemIds)]) field "invoice"
  | _, _ => missingArgument missing

/-- The arm `create_invoice`. -/
def createInvoiceTool : Json → ToolProg :=
  itemsTool "McpCreateInvoice" "projectId" "createInvoice" "projectId/itemIds"

/-- The arm `add_invoice_items`. -/
def addItemsTool : Json → ToolProg :=
  itemsTool "McpInvoiceItems" "invoiceId" "addInvoiceItems" "invoiceId/itemIds"

/-- The arm `remove_invoice_items`. -/
def removeItemsTool : Json → ToolProg :=
  itemsTool "McpInvoiceItems" "invoiceId" "removeInvoiceItems" "invoiceId/itemIds"

/-- The arm `finalize_invoice`. -/
def finalizeTool (arguments : Json) : ToolProg :=
  match stringArg arguments "invoiceId", stringArg arguments "issueDate" with
  | some id, some date => rename (run ⟨.mutation, "McpFinalize", [("id", "ID!"), ("date", "String!")],
      "finalizeInvoice", [("invoiceId", "id"), ("issueDate", "date")], invoiceDetailFields⟩
      [("id", .string id), ("date", .string date)]) "finalizeInvoice" "invoice"
  | _, _ => missingArgument "invoiceId/issueDate"

/-- The arm `set_invoice_paid`. -/
def paidTool (arguments : Json) : ToolProg :=
  match stringArg arguments "invoiceId" with
  | none => missingArgument "invoiceId"
  | some id => rename (run ⟨.mutation, "McpPaid", [("id", "ID!"), ("paid", "String")],
      "setInvoicePaid", [("invoiceId", "id"), ("paidDate", "paid")], invoiceSummaryFields⟩
      [("id", .string id), ("paid", .ofOption (stringArg arguments "paidDate"))])
      "setInvoicePaid" "invoice"

/-- `dispatch` of `mcp/invoicing.rs`. -/
def invoicingDispatch (name : String) (arguments : Json) : Option ToolProg :=
  match name with
  | "list_projects" => some (listProjects arguments)
  | "create_project" => some (createProjectTool arguments)
  | "update_project" => some (updateProjectTool arguments)
  | "list_billable_items" => some (listItems arguments)
  | "create_billable_item" => some (createItem arguments)
  | "update_billable_item" => some (updateItem arguments)
  | "delete_billable_item" => some (deleteItemTool arguments)
  | "list_invoices" => some (listInvoices arguments)
  | "get_invoice" => some (getInvoice arguments)
  | "create_invoice" => some (createInvoiceTool arguments)
  | "add_invoice_items" => some (addItemsTool arguments)
  | "remove_invoice_items" => some (removeItemsTool arguments)
  | "delete_invoice" => some (deleteInvoiceTool arguments)
  | "finalize_invoice" => some (finalizeTool arguments)
  | "set_invoice_paid" => some (paidTool arguments)
  | "get_invoice_pdf_url" => some (invoicePdfTool arguments)
  | _ => none

/-! ### All tools -/

/-- `dispatch` of `mcp/whoami.rs`. -/
def whoamiDispatch (name : String) : Option ToolProg :=
  if name = "whoami" then some (rename (run ⟨.query, "McpWhoami", [], "me", [],
    "id email name enabled isSuperuser memberships \x7b role instance \x7b id name slug kind \x7d \x7d"⟩
    []) "me" "user")
  else none

/-- `dispatch_tool`. -/
def dispatchTool (name : String) (arguments : Json) : ToolProg :=
  match whoamiDispatch name with
  | some outcome => outcome
  | none =>
      match ticketsDispatch name arguments with
      | some outcome => outcome
      | none =>
          match invoicingDispatch name arguments with
          | some outcome => outcome
          | none => .fail [s!"Unknown tool \"{name}\""]

end Microticket.Mcp

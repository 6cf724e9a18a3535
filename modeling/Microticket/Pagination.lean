import Microticket.Digits
import Microticket.Keyset
import Microticket.Money
import Microticket.TicketStore

/-! # Relay connections

`graphql/pagination.rs`, and the cursors of `query.rs`.  `buildConnection_first` and
`buildConnection_last` say what the connection of a fetched window is, and the `_encode` lemmas that
the cursor of a row decodes to its key. -/

namespace Microticket

open RustText Keyset Tables

/-! ### Connections -/

/-- `Connection`: the edges, and `pageInfo`. -/
structure Connection (α : Type) where
  edges : List (String × α)
  hasPreviousPage : Bool
  hasNextPage : Bool

/-- `pageInfo.startCursor`. -/
def Connection.startCursor {α : Type} (c : Connection α) : Option String := c.edges.head?.map Prod.fst

/-- `pageInfo.endCursor`. -/
def Connection.endCursor {α : Type} (c : Connection α) : Option String :=
  c.edges.getLast?.map Prod.fst

/-- The checks of `first` or `last` alone. -/
def boundedSize (name : String) (v : ℤ) (maxSize : ℕ) : Except Error ℕ :=
  if v < 0 then .error (.other s!"{name} must be non-negative")
  else if maxSize < v.toNat then
    .error (.other s!"{name} must be less than or equal to {maxSize}")
  else .ok v.toNat

/-- `pagination_args`. -/
def paginationArgs (first last : Option ℤ) (defaultSize maxSize : ℕ) : Except Error (ℕ × Bool) :=
  match first, last with
  | some _, some _ => .error (.other "Cannot specify both first and last")
  | some v, none => (boundedSize "first" v maxSize).map fun size => (size, false)
  | none, some v => (boundedSize "last" v maxSize).map fun size => (size, true)
  | none, none => .ok (defaultSize, false)

/-- `build_connection`. -/
def buildConnection {α N : Type} (rows : List α) (pageSize : ℕ)
    (isLastMode hasAfter hasBefore : Bool) (toEdge : α → String × N) : Connection N :=
  let fetchedExtra := decide (pageSize < rows.length)
  let rows := rows.take pageSize
  let rows := if isLastMode then rows.reverse else rows
  { edges := rows.map toEdge
    hasPreviousPage := if isLastMode then fetchedExtra || hasAfter else hasAfter
    hasNextPage := if isLastMode then hasBefore else fetchedExtra }

section connections
variable {α N : Type} {found all : List α} {size : ℕ} {hasAfter hasBefore : Bool}
variable {toEdge : α → String × N}

/-- Forward: the first rows of the window, and a next page if there are more. -/
theorem buildConnection_first (h : Window (size + 1) found all) :
    (buildConnection found size false hasAfter hasBefore toEdge).edges =
      (all.take size).map toEdge ∧
    (buildConnection found size false hasAfter hasBefore toEdge).hasNextPage =
      decide (size < all.length) := by
  constructor
  · show (found.take size).map _ = _
    rw [h.take_eq (Nat.le_succ size)]
  · show decide (size < found.length) = decide (size < all.length)
    exact decide_eq_decide.mpr h.length_iff

/-- Backward: the same rows the other way round, and a previous page if there are more. -/
theorem buildConnection_last (h : Window (size + 1) found all) (hasBefore : Bool)
    (toEdge : α → String × N) :
    (buildConnection found size true false hasBefore toEdge).edges =
      (all.take size).reverse.map toEdge ∧
    (buildConnection found size true false hasBefore toEdge).hasPreviousPage =
      decide (size < all.length) := by
  constructor
  · show (found.take size).reverse.map _ = _
    rw [h.take_eq (Nat.le_succ size)]
  · show (decide (size < found.length) || false) = decide (size < all.length)
    rw [Bool.or_false]
    exact decide_eq_decide.mpr h.length_iff

end connections

/-! ### Cursors -/

/-- `db::BillableItemCursor`. -/
structure BillableItemCursor where
  date : String
  id : String
  deriving DecidableEq

/-- `db::InvoiceCursor`. -/
structure InvoiceCursor where
  createdAt : ℕ
  id : String
  deriving DecidableEq

/-- `db::TicketCursor`. -/
structure TicketCursor where
  lastActivityAt : ℕ
  id : String
  deriving DecidableEq

def invalidCursor : Error := .other "Invalid cursor"

/-- `encode_billable_item_cursor`. -/
def encodeBillableItemCursor (i : BillableItem) : String := s!"{i.date}:{i.id}"

/-- `decode_billable_item_cursor`. -/
def decodeBillableItemCursor (dates : DateFormat) (debug : String → String) (cursor : String) :
    Except Error BillableItemCursor :=
  match splitOnce ':' cursor with
  | none => .error invalidCursor
  | some (date, id) =>
      match validateItemDate dates debug date with
      | .error _ => .error invalidCursor
      | .ok date => if id.isEmpty then .error invalidCursor else .ok ⟨date, id⟩

/-- The two parts of `splitn(2, ':')`: a number and a text that is not empty. -/
def decodeStampCursor {γ : Type} (make : ℕ → String → γ) (cursor : String) : Except Error γ :=
  let (stamp, id) := match splitOnce ':' cursor with
    | some (stamp, id) => (stamp, some id)
    | none => (cursor, none)
  match parseU64 stamp, id with
  | some stamp, some id => if id.isEmpty then .error invalidCursor else .ok (make stamp id)
  | _, _ => .error invalidCursor

/-- `encode_invoice_cursor`. -/
def encodeInvoiceCursor (i : Invoice) : String := s!"{i.createdAt}:{i.id}"

/-- `decode_invoice_cursor`. -/
def decodeInvoiceCursor : String → Except Error InvoiceCursor := decodeStampCursor InvoiceCursor.mk

/-- `encode_ticket_cursor`. -/
def encodeTicketCursor (t : Ticket) : String := s!"{t.lastActivityAt}:{t.id}"

/-- `decode_ticket_cursor`. -/
def decodeTicketCursor : String → Except Error TicketCursor := decodeStampCursor TicketCursor.mk

section cursors

theorem splitOnce_colon {a b : String} (ha : ':' ∉ a.toList) :
    splitOnce ':' (a ++ ":" ++ b) = some (a, b) := by
  refine splitOnce_eq ?_ ha
  rw [String.toList_append, String.toList_append]
  simp

theorem decodeStampCursor_encode {γ : Type} (make : ℕ → String → γ) {stamp : ℕ} {id : String}
    (hstamp : stamp < 2 ^ 64) (hid : id ≠ "") :
    decodeStampCursor make s!"{stamp}:{id}" = .ok (make stamp id) := by
  have hsplit : splitOnce ':' s!"{stamp}:{id}" = some (toString stamp, id) :=
    splitOnce_colon (not_mem_toString rfl stamp)
  unfold decodeStampCursor
  simp only [hsplit, parseU64_toString hstamp]
  rw [if_neg (by simpa using hid)]

theorem decodeInvoiceCursor_encode {i : Invoice} (hstamp : i.createdAt < 2 ^ 64) (hid : i.id ≠ "") :
    decodeInvoiceCursor (encodeInvoiceCursor i) = .ok ⟨i.createdAt, i.id⟩ :=
  decodeStampCursor_encode _ hstamp hid

theorem decodeTicketCursor_encode {t : Ticket} (hstamp : t.lastActivityAt < 2 ^ 64)
    (hid : t.id ≠ "") : decodeTicketCursor (encodeTicketCursor t) = .ok ⟨t.lastActivityAt, t.id⟩ :=
  decodeStampCursor_encode _ hstamp hid

variable {dates : DateFormat} {debug : String → String}

theorem decodeBillableItemCursor_encode {i : BillableItem}
    (hdate : validateItemDate dates debug i.date = .ok i.date) (hcolon : ':' ∉ i.date.toList)
    (hid : i.id ≠ "") :
    decodeBillableItemCursor dates debug (encodeBillableItemCursor i) = .ok ⟨i.date, i.id⟩ := by
  have hsplit : splitOnce ':' (encodeBillableItemCursor i) = some (i.date, i.id) :=
    splitOnce_colon hcolon
  unfold decodeBillableItemCursor
  simp only [hsplit, hdate]
  rw [if_neg (by simpa using hid)]

end cursors

end Microticket

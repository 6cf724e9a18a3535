import Microticket.Store
import Mathlib.Data.Int.Notation
import Mathlib.Data.Nat.Notation

/-! # Rows and errors

The records of `db.rs` that the modelled code stores, the principal of a request (`AuthInfo`) and
the errors a resolver can return.  Timestamps and versions are natural numbers; `i64` amounts are
integers, which the validated ranges of quantities and prices keep far below `2 ^ 63`. -/

namespace Microticket

/-- `db::InstanceKind`. -/
inductive InstanceKind where
  | support
  | invoicing
  deriving DecidableEq, Repr

/-- `InstanceKind::as_str`. -/
def InstanceKind.asStr : InstanceKind → String
  | support => "support"
  | invoicing => "invoicing"

/-- `db::Instance`. -/
structure Instance where
  id : String
  name : String
  slug : String
  kind : InstanceKind
  publicSubmissionEnabled : Bool
  fromName : String
  signature : String
  deleted : Bool
  businessName : Option String
  businessAbn : Option String
  businessAddress : Option String
  businessPhone : Option String
  businessEmail : Option String
  paymentDetails : Option String
  gstRegistered : Bool
  currency : Option String
  deriving DecidableEq, Repr

/-- `Instance::currency_or_default`. -/
def Instance.currencyOrDefault (i : Instance) : String := i.currency.getD "AUD"

/-- `db::Project`. -/
structure Project where
  id : String
  instanceId : String
  clientName : String
  clientAbn : Option String
  clientAddress : Option String
  reference : Option String
  archived : Bool
  deriving DecidableEq, Repr

/-- `db::BillableItem`. -/
structure BillableItem where
  id : String
  instanceId : String
  projectId : String
  date : String
  description : String
  quantityHundredths : ℤ
  unitPriceCents : ℤ
  invoiceId : Option String
  createdByUserId : String
  createdAt : ℕ
  updatedAt : ℕ
  deriving DecidableEq, Repr

/-- `db::InvoiceStatus`. -/
inductive InvoiceStatus where
  | draft
  | finalized
  deriving DecidableEq, Repr

/-- `db::Invoice`. -/
structure Invoice where
  id : String
  instanceId : String
  projectId : String
  status : InvoiceStatus
  version : ℕ
  itemIds : List String
  createdByUserId : String
  createdAt : ℕ
  updatedAt : ℕ
  number : Option ℕ
  issueDate : Option String
  snapshot : Option String
  totalCents : Option ℤ
  finalizedAt : Option ℕ
  finalizedByUserId : Option String
  paidDate : Option String
  pdfS3Key : Option String
  deriving DecidableEq, Repr

/-! ### Principals -/

/-- `auth::Membership`. -/
structure Membership where
  instanceId : String
  isOwner : Bool
  deriving DecidableEq, Repr

/-- `auth::AuthInfo`. -/
inductive AuthInfo where
  | user (id : String) (memberships : List Membership) (isSuperuser : Bool)
  | requester (email instanceId : String)
  | apiToken (tokenId instanceId : String)
  deriving DecidableEq, Repr

/-- `is_member` of `graphql/auth.rs`. -/
def isMember (memberships : List Membership) (instanceId : String) : Bool :=
  memberships.any fun m => m.instanceId == instanceId

/-- `is_owner` of `graphql/auth.rs`. -/
def isOwner (memberships : List Membership) (instanceId : String) : Bool :=
  memberships.any fun m => m.instanceId == instanceId && m.isOwner

/-! ### Errors -/

/-- `graphql::error::ErrorCode`. -/
inductive ErrorCode where
  | notFound
  | forbidden
  | unauthenticated
  | conflict
  | internal
  deriving DecidableEq, Repr

/-- `db::Error`. -/
inductive DbError where
  | notFound (message : String)
  | hydration (message : String)
  | infrastructure (message : String)
  | integrity (message : String)
  | typeConversion (message : String)
  | mutationDisabled
  deriving DecidableEq, Repr

def connectionLost : DbError := .infrastructure "connection lost"

/-- An infrastructure failure of one request: it is lost, or it is committed and only its answer is
lost, or a transaction is cancelled for a reason other than its conditions. -/
inductive Fault where
  | none
  | lost
  | unacknowledged
  | cancelled
  deriving DecidableEq

/-- The answer to a read. -/
def Fault.read {α : Type} (fault : Fault) (answer : Except DbError α) : Except DbError α :=
  if fault = .none then answer else .error connectionLost

/-- A write whose condition gives the new tables or an error, and which answers `committed`. -/
def Fault.commit {D α : Type} (fault : Fault) (readOnly : Bool) (r : Tables.Replica D)
    (change : Except DbError D) (committed : α) : Except DbError α × Tables.Replica D :=
  if readOnly then (.error .mutationDisabled, r)
  else if fault = .lost ∨ fault = .cancelled then (.error connectionLost, r)
  else match change with
    | .error err => (.error err, r)
    | .ok d => (if fault = .none then .ok committed else .error connectionLost, r.write d)

section
variable {D α : Type} {fault : Fault} {readOnly : Bool} {r : Tables.Replica D}
variable {change : Except DbError D} {committed a : α}

/-- A write leaves the tables as they are, or it commits the new ones. -/
theorem Fault.commit_state : (fault.commit readOnly r change committed).2 = r ∨
    ∃ d, change = .ok d ∧ (fault.commit readOnly r change committed).2 = r.write d := by
  unfold Fault.commit
  split
  · exact .inl rfl
  · split
    · exact .inl rfl
    · cases change with
      | error err => exact .inl rfl
      | ok d => exact .inr ⟨d, rfl, rfl⟩

/-- A write that is acknowledged is committed. -/
theorem Fault.commit_ok (h : (fault.commit readOnly r change committed).1 = .ok a) :
    ∃ d, change = .ok d ∧ (fault.commit readOnly r change committed).2 = r.write d := by
  unfold Fault.commit at h ⊢
  split at h
  · cases h
  · rename_i hwritable
    rw [if_neg hwritable]
    split at h
    · cases h
    · rename_i hfault
      rw [if_neg hfault]
      cases change with
      | error err => cases h
      | ok d => exact ⟨d, rfl, rfl⟩

/-- A read that is answered is answered with what was read. -/
theorem Fault.read_ok {answer : Except DbError α} (h : fault.read answer = .ok a) :
    answer = .ok a := by
  unfold Fault.read at h
  split at h
  · exact h
  · cases h

end

/-- What a resolver fails with: an `ApiError`, a `db::Error`, or another message. -/
inductive Error where
  | api (code : ErrorCode) (message : String)
  | db (e : DbError)
  | other (message : String)
  deriving DecidableEq, Repr

/-- `ApiError::not_found`. -/
def Error.notFound (kind id : String) : Error := .api .notFound s!"{kind} with ID {id} missing"

/-- `ApiError::forbidden`. -/
def Error.forbidden (message : String) : Error := .api .forbidden message

/-- `ApiError::conflict`. -/
def Error.conflict (message : String) : Error := .api .conflict message

end Microticket

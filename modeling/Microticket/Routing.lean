import Microticket.Text
import Microticket.TicketStore

/-! # Addresses and their instances

`inbound/routing.rs`: how a recipient is normalized and which keys of `inbound_address` are tried for
it.  `lower` is `str::to_lowercase` and `debug` the `{:?}` format, which are Unicode tables of the
standard library. -/

namespace Microticket

open RustText

/-- `NormalizedRecipient`. -/
structure NormalizedRecipient where
  address : String
  tag : Option String
  domain : Option String
  deriving DecidableEq, Repr

section
variable (lower : String → String)

/-- `normalize_recipient`. -/
def normalizeRecipient (raw : String) : NormalizedRecipient :=
  match splitOnce '@' raw with
  | some (localPart, domain) =>
      match splitOnce '+' localPart with
      | some (base, tag) =>
          { address := lower base ++ "@" ++ lower domain, tag := some tag,
            domain := some (lower domain) }
      | none =>
          { address := lower localPart ++ "@" ++ lower domain, tag := none,
            domain := some (lower domain) }
  | none => { address := lower raw, tag := none, domain := none }

/-- `wildcard_for_domain`. -/
def wildcardForDomain (domain : String) : String := "*@" ++ domain

/-- `lookup_keys`. -/
def lookupKeys (raw : String) : List String :=
  let n := normalizeRecipient lower raw
  n.address :: match n.domain with
    | some domain => [wildcardForDomain domain]
    | none => []

/-- `resolve`. -/
def resolve (isKnown : String → Bool) (recipients : List String) : Option String :=
  recipients.findSome? fun recipient => (lookupKeys lower recipient).find? isKnown

/-- `classify_for_storage`. -/
def classifyForStorage (debug : String → String) (raw : String) :
    Except String (String × AddressKind) :=
  let email := lower (trim raw)
  match splitOnce '@' email with
  | none => .error s!"{debug raw} is not a valid address (missing '@')"
  | some (localPart, domain) =>
      if domain.isEmpty then .error s!"{debug raw} has no domain"
      else if localPart = "*" then .ok (email, .wildcard)
      else if localPart.toList.contains '*' || domain.toList.contains '*' then
        .error s!"{debug raw}: '*' is only allowed as the entire local part of a wildcard (*@domain)"
      else if localPart.isEmpty then .error s!"{debug raw} has no local part"
      else .ok (email, .exact)

/-- `is_own_address`: whether the address is one of `addresses`, or in the domain of one of its
wildcards. -/
def isOwnAddress (addresses : List InboundAddress) (candidate : String) : Bool :=
  let n := normalizeRecipient lower candidate
  addresses.any fun a => match a.kind with
    | .exact => a.address == n.address
    | .wildcard => dropStart "*@" a.address == n.domain

/-- The `is_own` of `strip_own_addresses`. -/
def stripIsOwn (addresses : List InboundAddress) (candidate : String) : Bool :=
  let n := normalizeRecipient lower candidate
  addresses.any fun a => match a.kind with
    | .exact => a.address == n.address
    | .wildcard => dropStart "*@" a.address == n.domain

/-- `strip_own_addresses`: the loop, with the addresses found so far. -/
def stripOwnAddresses (addresses : List InboundAddress) (fromNormalized : String) :
    List String → List String → List String
  | [], out => out
  | raw :: rest, out =>
      let normalized := (normalizeRecipient lower raw).address
      if normalized == fromNormalized || stripIsOwn lower addresses raw || out.contains normalized
      then stripOwnAddresses addresses fromNormalized rest out
      else stripOwnAddresses addresses fromNormalized rest (out ++ [normalized])

end

end Microticket

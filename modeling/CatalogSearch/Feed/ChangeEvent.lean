import CatalogSearch.Catalog.Data
import CatalogSearch.Json.Skip

/-!
# Changes

The services that own the records tell of each change at least once: the record was written or
deleted, in a version.  Nothing is promised about the order.
-/

set_option autoImplicit false

namespace CatalogSearch

open CatalogSearch.Text CatalogSearch.Time

/-- What happened to a record. -/
inductive ChangeOperation where
  | upsert
  | delete
  deriving DecidableEq, Repr, Inhabited

namespace ChangeOperation

/-- The name of an operation. -/
def name : ChangeOperation → String
  | .upsert => "upsert"
  | .delete => "delete"

/-- The operation with exactly this name. -/
def ofName? (s : String) : Option ChangeOperation :=
  [ChangeOperation.upsert, .delete].find? (fun o => o.name == s)

end ChangeOperation

/-! ## Identity of a delivery -/

/-- The identity of one delivery: thirty-two hexadecimal digits in lower case. -/
structure EventId where
  digits : List Char
  deriving DecidableEq, Repr

namespace EventId

/-- The identity of a delivery that was given none. -/
def nil : EventId := ⟨List.replicate 32 '0'⟩

instance : Inhabited EventId := ⟨nil⟩

/-- An identity as it is written: groups of 8, 4, 4, 4 and 12 digits. -/
def text (e : EventId) : String :=
  let group (start size : Nat) := (e.digits.drop start).take size
  String.ofList (group 0 8 ++ '-' :: group 8 4 ++ '-' :: group 12 4 ++ '-' :: group 16 4 ++
    '-' :: group 20 12)

/-- An identity of plain digits. -/
def ofDigits? (cs : List Char) : Option EventId :=
  let digits := cs.map Char.toLower
  if digits.length = 32 && digits.all (fun c => (Json.hexValue? c).isSome) then some ⟨digits⟩
  else none

/-- An identity of digits in groups. -/
def ofGroups? (cs : List Char) : Option EventId :=
  if cs.length = 36 && [8, 13, 18, 23].all (fun i => cs[i]? == some '-') then
    ofDigits? (cs.filter (· != '-'))
  else none

/-- The name of the namespace of identities, in lower case. -/
def namespaceName : String := "urn:uuid:"

/-- An identity from its text: digits with or without groups; groups also in braces or after the
name of their namespace in any case. -/
def parse? (s : String) : Option EventId :=
  let cs := s.toList
  if cs.length = 32 then ofDigits? cs
  else if cs.length = 36 then ofGroups? cs
  else if cs.length = 38 && cs.head? == some '\x7b' && cs.getLast? == some '\x7d' then
    ofGroups? (cs.drop 1).dropLast
  else if cs.length = 45 &&
      equalIgnoringAsciiCase (String.ofList (cs.take namespaceName.length)) namespaceName then
    ofGroups? (cs.drop namespaceName.length)
  else none

end EventId

/-! ## Changes -/

/-- The members of a record, as its owner sends it. -/
abbrev Payload := Std.ExtTreeMap String Json

/-- One change of one record. -/
structure ChangeEvent where
  eventId : EventId := .nil
  entityType : EntityType
  tenant : Option String
  id : String
  operation : ChangeOperation
  /-- The record; of no meaning for a deletion. -/
  payload : Payload := ∅
  /-- The version of the record after the change. -/
  updatedAt : Instant

namespace ChangeEvent

/-- The key of the record: the tenant resolved and the id trimmed. -/
def key (e : ChangeEvent) : DocumentKey := .resolve e.tenant e.entityType (trim e.id)

/-- A payload from the members of an object. -/
def payloadOf (members : List (String × Json)) : Payload :=
  members.foldl (fun m (name, value) => m.insert name value) ∅

/-- A write of a record; a record that is no object has no members. -/
def write (entityType : EntityType) (tenant : Option String) (id : String) (record : Json)
    (updatedAt : Instant) : ChangeEvent :=
  ⟨.nil, entityType, tenant, id, .upsert, payloadOf (record.members?.getD []), updatedAt⟩

/-- A deletion of a record. -/
def deletion (entityType : EntityType) (tenant : Option String) (id : String)
    (updatedAt : Instant) : ChangeEvent :=
  ⟨.nil, entityType, tenant, id, .delete, ∅, updatedAt⟩

/-- A change from JSON.  Of members of the record that are written twice the last counts; a case of an
enumeration is written once. -/
def ofJson? (j : Json) : Option ChangeEvent := do
  let eventId ← j.defaulted "event_id" (fun i => i.text? >>= EventId.parse?) .nil
  let entityType ← j.required "type" EntityType.ofJson?
  let tenant ← j.optional "tenant_id" Json.text?
  let id ← j.required "id" Json.text?
  let operation ← j.required "operation" (fun o => o.word? >>= ChangeOperation.ofName?)
  let payload ← j.defaulted "payload" (fun record => record.settled.members?) []
  let updatedAt ← j.required "updated_at" instantOfJson?
  some ⟨eventId, entityType, tenant, id, operation, payloadOf payload, updatedAt⟩

/-- The members of a change. -/
def memberNames : List String :=
  ["event_id", "type", "tenant_id", "id", "operation", "payload", "updated_at"]

/-- Whether each member of a change is written at most once. -/
def isUnambiguous (members : List (String × Json)) : Bool :=
  memberNames.all fun name => members.countP (fun m => m.1 == name) ≤ 1

/-- A change from a line of JSON, in which no member of a change is written twice; members of no
change are passed over. -/
def parse? (line : String) : Option ChangeEvent := do
  let members ← Json.membersAsked? memberNames.contains line
  if isUnambiguous members then ofJson? (.object members) else none

/-- A change inside data. -/
def toJson (e : ChangeEvent) : Json :=
  .object
    [("event_id", .string e.eventId.text), ("type", .string e.entityType.name),
      ("tenant_id", .ofText? e.tenant), ("id", .string e.id),
      ("operation", .string e.operation.name), ("payload", .object e.payload.toList),
      ("updated_at", .string e.updatedAt.dataText)]

end ChangeEvent

end CatalogSearch

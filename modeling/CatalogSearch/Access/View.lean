import CatalogSearch.Access.Policy
import CatalogSearch.Catalog.PartitionKey

/-!
# Views

A caller's view is worked out once for a request: whose documents it may find and of which types it
may read confidential fields.  Fields are hidden one by one; a record shown to the caller leaves them
out, with a placeholder for a price that is kept back.
-/

set_option autoImplicit false

namespace CatalogSearch

open CatalogSearch.Text

/-- Who makes a request. -/
structure Caller where
  user : Option String := none
  tenant : Option String := none
  roles : List String := []
  deriving DecidableEq, Repr, Inhabited

namespace Caller

/-- Nobody in particular. -/
def guest : Caller := {}

/-- A caller without a user is a guest, whatever else it carries. -/
def isGuest (c : Caller) : Bool := (nonBlank? c.user).isNone

/-- The state of a caller in words. -/
def stateName (c : Caller) : String := if c.isGuest then "guest" else "authenticated"

end Caller

/-- Whose documents a caller may find. -/
inductive TenantScope where
  /-- Those of every tenant. -/
  | unrestricted
  /-- What belongs to everybody, what is listed, and what the caller's tenant keeps to itself. -/
  | restricted (tenant : Option String)
  deriving DecidableEq, Repr, Inhabited

namespace TenantScope

/-- Whether the documents of a partition may be found. -/
def admitsPartition (s : TenantScope) (p : PartitionScope) : Bool :=
  match s, p with
  | .unrestricted, _ => true
  | .restricted _, .global => true
  | .restricted _, .listed => true
  | .restricted tenant, .tenant owner => tenant == some owner

/-- Whether a document may be found. -/
def admits (s : TenantScope) (d : Document) : Bool := s.admitsPartition (PartitionScope.ofDocument d)

/-- The scope as a text, under which answers are remembered. -/
def cacheKey : TenantScope → String
  | .unrestricted => "*"
  | .restricted none => "public"
  | .restricted (some tenant) => "tenant:" ++ tenant

end TenantScope

/-- What a caller may see. -/
structure AccessView where
  caller : Caller
  scope : TenantScope
  /-- The types of which the caller's roles may read confidential fields. -/
  sensitiveTypes : List EntityType

namespace AccessView

/-- The fields hidden together when a price is kept back. -/
def restrictedPriceFields : List String := [priceField, priceBucketField]

/-- The view of a caller under a policy.  A guest finds what everybody may, whatever its roles. -/
def resolve (policy : AccessPolicy) (caller : Caller) : AccessView :=
  if caller.isGuest then ⟨caller, .restricted none, []⟩
  else
    ⟨caller,
      if policy.hasGlobalRead caller.roles then .unrestricted
      else .restricted (nonBlank? caller.tenant),
      EntityType.all.filter (policy.canReadSensitive caller.roles)⟩

/-- Whether the view is a guest's. -/
def isGuest (v : AccessView) : Bool := v.caller.isGuest

/-- Whether confidential fields of some document of a type may be read. -/
def canReadSensitiveType (v : AccessView) (t : EntityType) : Bool :=
  !v.isGuest && v.sensitiveTypes.contains t

/-- Whether confidential fields of a document may be read: those of the caller's own tenant, given
the permission for the type. -/
def canReadSensitive (v : AccessView) (d : Document) : Bool :=
  v.canReadSensitiveType d.entityType && nonBlank? v.caller.tenant == d.tenant

/-- Whether a field of a document is hidden. -/
def isHidden (v : AccessView) (d : Document) (field : String) : Bool :=
  (d.sensitiveFields.contains field ||
      (d.priceRestricted && restrictedPriceFields.contains field)) &&
    !v.canReadSensitive d

/-- The value of a field, unless it is hidden. -/
def visibleValue? (v : AccessView) (d : Document) (field : String) : Option FieldValue :=
  if v.isHidden d field then none else d.field? field

/-- The fields of a document as the caller is shown them: all of them if it may read what is
confidential; else without the confidential ones, and without a price that is kept back, in whose
place there is a null and a text to display. -/
def redact (v : AccessView) (placeholder : String) (d : Document) : FieldMap :=
  if v.canReadSensitive d then d.fields
  else
    let shown := d.fields.filter fun name _ => !d.sensitiveFields.contains name
    if d.priceRestricted then
      let shown := shown.erase priceBucketField
      if (d.field? priceField).any (fun p => !p.isNull) then
        (shown.insert priceField .null).insert priceDisplayField (.text placeholder)
      else shown
    else shown

/-- A page of the wanted size; guests get no more than a given number of results. -/
def pageSize (v : AccessView) (guestCap wanted : Nat) : Nat :=
  if v.isGuest then min wanted guestCap else wanted

end AccessView

end CatalogSearch

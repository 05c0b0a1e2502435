import CatalogSearch.Catalog.EntityType
import CatalogSearch.Text.Token

/-!
# Access policy

What each role may do.  A permission names a resource and an action, either of them possibly all; a
role grants permissions and may read every tenant's documents.  Roles are looked up by their trimmed,
lower-cased names.
-/

set_option autoImplicit false

namespace CatalogSearch

open CatalogSearch.Text

/-- The right to do an action on a resource. -/
structure Permission where
  resource : String
  action : String
  deriving DecidableEq, Repr

namespace Permission

/-- Stands for every resource or every action. -/
def wildcard : String := "*"

/-- The action of reading confidential fields. -/
def readSensitive : String := "read_sensitive"

/-- A permission from a resource and an action with a colon between them.  The first colon counts,
and neither side may be empty. -/
def parse? (s : String) : Option Permission :=
  let cs := (trim s).toList
  let resource := cs.takeWhile (· != ':')
  match cs.dropWhile (· != ':') with
  | ':' :: action =>
    if resource.isEmpty || action.isEmpty then none
    else some ⟨lower (String.ofList resource), lower (String.ofList action)⟩
  | _ => none

/-- Whether the permission covers an action on a resource. -/
def allows (p : Permission) (resource action : String) : Bool :=
  (p.resource == wildcard || p.resource == resource) &&
    (p.action == wildcard || p.action == action)

end Permission

/-- What a role may do. -/
structure RoleGrant where
  /-- It may read the documents of every tenant. -/
  globalRead : Bool := false
  /-- Its permissions as written; those that are malformed grant nothing. -/
  permissions : List String := []
  deriving DecidableEq, Repr, Inhabited

namespace RoleGrant

/-- Whether one of the permissions covers an action on a resource. -/
def allows (g : RoleGrant) (resource action : String) : Bool :=
  (g.permissions.filterMap Permission.parse?).any (·.allows resource action)

/-- The grant of everything. -/
def everything : RoleGrant := ⟨true, ["*:*"]⟩

/-- The grant of reading the confidential fields of a resource. -/
def reading (resource : String) : RoleGrant :=
  ⟨false, [resource ++ ":" ++ Permission.readSensitive]⟩

end RoleGrant

/-- The grants of all roles, by name. -/
structure AccessPolicy where
  roles : Std.ExtTreeMap String RoleGrant

namespace AccessPolicy

/-- A policy of no roles. -/
def empty : AccessPolicy := ⟨∅⟩

/-- The policy with a role under its lower-cased name. -/
def withRole (p : AccessPolicy) (role : String) (grant : RoleGrant) : AccessPolicy :=
  ⟨p.roles.insert (lower role) grant⟩

/-- The grants a policy gives to someone with these roles. -/
def grants (p : AccessPolicy) (roles : List String) : List RoleGrant :=
  roles.filterMap fun role => p.roles[lower (trim role)]?

/-- Whether one of the roles may read the documents of every tenant. -/
def hasGlobalRead (p : AccessPolicy) (roles : List String) : Bool :=
  (p.grants roles).any (·.globalRead)

/-- Whether one of the roles may do an action on a resource. -/
def permits (p : AccessPolicy) (roles : List String) (resource action : String) : Bool :=
  (p.grants roles).any (·.allows resource action)

/-- Whether one of the roles may read confidential fields of a type. -/
def canReadSensitive (p : AccessPolicy) (roles : List String) (t : EntityType) : Bool :=
  p.permits roles t.resource Permission.readSensitive

/-- The policy of a marketplace: administrators may do everything, managers read what their trade
keeps confidential, buyers read what everybody may. -/
def standard : AccessPolicy :=
  [("super_admin", RoleGrant.everything), ("admin", RoleGrant.everything),
    ("catalog_admin", RoleGrant.reading "catalog"),
    ("equipment_manager", RoleGrant.reading "equipment"),
    ("company_admin", RoleGrant.reading "company"), ("supplier", RoleGrant.reading "marketplace"),
    ("procurement_manager", RoleGrant.reading "marketplace"), ("buyer", {})].foldl
    (fun p (role, grant) => p.withRole role grant) empty

instance : Inhabited AccessPolicy := ⟨standard⟩

end AccessPolicy

end CatalogSearch

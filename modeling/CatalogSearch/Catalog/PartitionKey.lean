import CatalogSearch.Catalog.Document

/-!
# Partitions

Documents are kept apart by type and by who may find them: what belongs to everybody, what tenants
have listed, and what each tenant keeps to itself.
-/

set_option autoImplicit false

namespace CatalogSearch

/-- Who may find the documents of a partition. -/
inductive PartitionScope where
  /-- Documents without a tenant. -/
  | global
  /-- Documents that their tenants have listed. -/
  | listed
  /-- Documents that one tenant keeps to itself. -/
  | tenant (owner : String)
  deriving DecidableEq, Repr, Inhabited

namespace PartitionScope

/-- The place of the form of a scope in the order. -/
def index : PartitionScope → Nat
  | .global => 0
  | .listed => 1
  | .tenant _ => 2

/-- The tenant of a scope of one tenant. -/
def owner? : PartitionScope → Option String
  | .tenant owner => some owner
  | _ => none

theorem eq_of_index_owner {a b : PartitionScope} (hi : a.index = b.index)
    (ho : a.owner? = b.owner?) : a = b := by
  cases a <;> cases b <;> simp_all [index, owner?]

instance : Ord PartitionScope := ⟨compareLex (compareOn index) (compareOn owner?)⟩

instance : Std.TransOrd PartitionScope :=
  inferInstanceAs (Std.TransCmp (compareLex (compareOn index) (compareOn owner?)))

instance : Std.LawfulEqOrd PartitionScope where
  eq_of_compare {a b} h := by
    have h' : compareLex (compareOn index) (compareOn owner?) a b = .eq := h
    simp only [compareLex_eq_eq, compareOn, Std.compare_eq_iff_eq] at h'
    exact eq_of_index_owner h'.1 h'.2

/-- The scope of a document: its tenant's own unless it has none or the tenant has listed it. -/
def ofDocument (d : Document) : PartitionScope :=
  match tenant? d.tenant with
  | none => .global
  | some owner =>
    match d.visibility with
    | .listed => .listed
    | .unlisted => .tenant owner

/-- A scope as messages show it. -/
def text : PartitionScope → String
  | .global => "global"
  | .listed => "public"
  | .tenant owner => "tenant:" ++ owner

end PartitionScope

/-- The identity of a partition. -/
structure PartitionKey where
  entityType : EntityType
  scope : PartitionScope
  deriving DecidableEq, Repr, Inhabited

namespace PartitionKey

/-- Partitions in order of type, then scope. -/
instance : Ord PartitionKey := ⟨compareLex (compareOn (·.entityType)) (compareOn (·.scope))⟩

instance : Std.TransOrd PartitionKey :=
  inferInstanceAs (Std.TransCmp
    (compareLex (compareOn PartitionKey.entityType) (compareOn PartitionKey.scope)))

instance : Std.LawfulEqOrd PartitionKey where
  eq_of_compare {a b} h := by
    have h' : compareLex (compareOn PartitionKey.entityType) (compareOn PartitionKey.scope) a b =
      .eq := h
    simp only [compareLex_eq_eq, compareOn, Std.compare_eq_iff_eq] at h'
    cases a
    cases b
    simp_all

/-- The partition of a document. -/
def ofDocument (d : Document) : PartitionKey := ⟨d.entityType, PartitionScope.ofDocument d⟩

/-- A partition as messages show it. -/
def text (k : PartitionKey) : String := k.entityType.name ++ "/" ++ k.scope.text

end PartitionKey

end CatalogSearch

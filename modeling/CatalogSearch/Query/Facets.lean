import CatalogSearch.Number.Integer
import CatalogSearch.Query.Ranking

/-!
# Facets

How many of all matches have each value of a field.  Every match is counted once in every facet: under
its value, or with the others if it has none there, the caller does not see it, or it is not one of
the facet's values.
-/

set_option autoImplicit false

namespace CatalogSearch

/-- The counts of one field. -/
structure FacetResult where
  field : String
  /-- Values with their counts, the most frequent first, then by value. -/
  buckets : List (String × Nat)
  /-- The matches under none of the values. -/
  other : Nat
  deriving DecidableEq, Repr

namespace FacetResult

/-- The number of matches counted. -/
def total (f : FacetResult) : Nat := Number.total (f.buckets.map (·.2)) + f.other

/-- The count of a value. -/
def count (f : FacetResult) (value : String) : Nat :=
  ((f.buckets.find? (fun b => b.1 == value)).map (·.2)).getD 0

/-- Buckets by falling count, then by value. -/
def bucketLe (a b : String × Nat) : Bool := (compare b.2 a.2).then (compare a.1 b.1) != .gt

/-- The counts of a field over the values that each match has there. -/
def tally (field : String) (domain : FacetDomain) (values : List (Option String)) : FacetResult :=
  let admitted := values.filterMap fun v => v.filter domain.admits
  let counts := admitted.foldl (fun m v => m.alter v fun n => some (n.getD 0 + 1))
    (∅ : Std.ExtTreeMap String Nat)
  ⟨field, counts.toList.mergeSort bucketLe, values.length - admitted.length⟩

end FacetResult

namespace Facets

/-- The facet of entity types. -/
def typeField : String := "type"

/-- The value under which a facet counts a document: that of a field which the document's type
declares and the caller sees. -/
def value? (schemas : SchemaRegistry) (view : AccessView) (field : String) (d : Document) :
    Option String :=
  if schemas.declaresAny [d.entityType] field then
    (view.visibleValue? d field).bind FieldValue.facetValue?
  else none

/-- The counts over all matches: of their types, then of every facet that the types declare. -/
def aggregate (schemas : SchemaRegistry) (matched : List Document) (plan : QueryPlan) :
    List FacetResult :=
  let types := FacetResult.tally typeField (.values (plan.types.map (·.name)))
    (matched.map fun d => some d.entityType.name)
  types :: (schemas.facets plan.types).map fun (field, domain) =>
    FacetResult.tally field domain (matched.map (value? schemas plan.view field))

end Facets

end CatalogSearch

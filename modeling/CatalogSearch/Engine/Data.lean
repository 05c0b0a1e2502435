import CatalogSearch.Catalog.Data
import CatalogSearch.Engine.Basic

/-!
# Answers as JSON

What the engine answers, the way programs read it.
-/

set_option autoImplicit false

namespace CatalogSearch

/-- A result inside data. -/
def SearchHit.toJson (h : SearchHit) : Json :=
  .object
    [("type", .string h.entityType.name), ("id", .string h.id), ("tenant_id", .ofText? h.tenant),
      ("title", .string h.title), ("description", .string h.description),
      ("fields", FieldMap.toJson h.fields), ("score", (FieldValue.number h.score).toJson)]

/-- The counts of a field inside data. -/
def FacetResult.toJson (f : FacetResult) : Json :=
  .object
    [("field", .string f.field),
      ("buckets", .array (f.buckets.map fun (value, count) =>
        .object [("value", .string value), ("count", .nat count)])),
      ("other", .nat f.other)]

/-- The answer to a search inside data, with the milliseconds it took. -/
def SearchResponse.toJson (r : SearchResponse) (tookMs : Nat) : Json :=
  .object
    [("results", .array (r.results.map SearchHit.toJson)),
      ("facets", .array (r.facets.map FacetResult.toJson)), ("total", .nat r.total),
      ("page", .nat r.page), ("page_size", .nat r.pageSize), ("took_ms", .nat tookMs)]

/-- Figures about the store inside data. -/
def IndexStats.toJson (s : IndexStats) : Json :=
  .object
    [("documents", .nat s.documents), ("partitions", .nat s.partitions), ("terms", .nat s.terms),
      ("tombstones", .nat s.tombstones), ("generation", .nat s.generation),
      ("available", .bool s.available)]

/-- How the engine is, inside data. -/
def Health.toJson (h : Health) : Json :=
  .object
    [("healthy", .bool h.healthy), ("index_available", .bool h.indexAvailable),
      ("generation", .nat h.generation), ("cached_suggestions", .nat h.cachedSuggestions)]

end CatalogSearch

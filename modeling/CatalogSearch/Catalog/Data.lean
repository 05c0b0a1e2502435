import CatalogSearch.Catalog.Document
import CatalogSearch.Json.Shape

/-!
# Documents and schemas as JSON

What the catalog writes it reads back, except that a timestamp comes back as text: only a schema
turns text into a timestamp.
-/

set_option autoImplicit false

namespace CatalogSearch

open CatalogSearch.Time

/-- A type from its exact name. -/
def EntityType.ofJson? (j : Json) : Option EntityType := j.word? >>= EntityType.ofName?

/-- A kind from its exact name. -/
def FieldKind.ofJson? (j : Json) : Option FieldKind := j.word? >>= FieldKind.ofName?

/-- A visibility from its exact name. -/
def Visibility.ofJson? (j : Json) : Option Visibility := j.word? >>= Visibility.ofName?

/-- An instant from text that follows RFC 3339 loosely. -/
def instantOfJson? (j : Json) : Option Instant := j.text? >>= Instant.parseLenient?

/-! ## Documents -/

namespace FieldValue

/-- A value from null, a truth value, a number or a text. -/
def ofJson? : Json → Option FieldValue
  | .null => some .null
  | .bool b => some (.bool b)
  | .number n => some (.number n.toFloat)
  | .string s => some (.text s)
  | .array _ | .object _ => none

/-- A value inside data; what is no finite number is written as null. -/
def toJson : FieldValue → Json
  | .null => .null
  | .bool b => .bool b
  | .number x => if x.isFinite then .number (.decimal x) else .null
  | .text s => .string s
  | .timestamp t => .string t.dataText

end FieldValue

namespace DocumentKey

/-- A key with its tenant as written. -/
def ofJson? (j : Json) : Option DocumentKey := do
  let tenant ← j.optional "tenant_id" Json.text?
  let entityType ← j.required "entity_type" EntityType.ofJson?
  let id ← j.required "id" Json.text?
  some ⟨tenant, entityType, id⟩

end DocumentKey

/-- Fields from the members of an object. -/
def FieldMap.ofJson? (j : Json) : Option FieldMap :=
  (j.tableOf? FieldValue.ofJson?).map fun fields =>
    fields.foldl (fun m (name, value) => m.insert name value) ∅

/-- A set of names from an array. -/
def NameSet.ofJson? (j : Json) : Option NameSet := j.texts?.map (·.foldl (·.insert ·) ∅)

/-- A set of names as an array, in order. -/
def NameSet.toJson (names : NameSet) : Json := .strings names.toList

/-- Fields as an object, in order of name. -/
def FieldMap.toJson (fields : FieldMap) : Json :=
  .object (fields.toList.map fun (name, value) => (name, value.toJson))

namespace Document

/-- A document; all but its tenant and visibility must be there. -/
def ofJson? (j : Json) : Option Document := do
  let entityType ← j.required "type" EntityType.ofJson?
  let id ← j.required "id" Json.text?
  let tenant ← j.optional "tenant_id" Json.text?
  let title ← j.required "title" Json.text?
  let description ← j.required "description" Json.text?
  let fields ← j.required "fields" FieldMap.ofJson?
  let facetFields ← j.required "facet_fields" NameSet.ofJson?
  let sensitiveFields ← j.required "sensitive_fields" NameSet.ofJson?
  let keywords ← j.required "keywords" NameSet.ofJson?
  let visibility ← j.defaulted "visibility" Visibility.ofJson? .unlisted
  let updatedAt ← j.required "updated_at" instantOfJson?
  some ⟨entityType, id, tenant, title, description, fields, facetFields, sensitiveFields, keywords,
    visibility, updatedAt⟩

/-- A document inside data. -/
def toJson (d : Document) : Json :=
  .object
    [("type", .string d.entityType.name), ("id", .string d.id), ("tenant_id", .ofText? d.tenant),
      ("title", .string d.title), ("description", .string d.description),
      ("fields", FieldMap.toJson d.fields), ("facet_fields", NameSet.toJson d.facetFields),
      ("sensitive_fields", NameSet.toJson d.sensitiveFields),
      ("keywords", NameSet.toJson d.keywords), ("visibility", .string d.visibility.name),
      ("updated_at", .string d.updatedAt.dataText)]

end Document

/-! ## Schemas -/

namespace FacetDomain

/-- A domain: the word for all values, or an object with one member that names its form. -/
def ofJson? : Json → Option FacetDomain
  | .object [("values", names)] => names.texts?.map .values
  | .object [("buckets", j)] => do
    let source ← j.required "source" Json.text?
    let bounds ← j.required "bounds" (Json.listOf? Json.float?)
    some (.buckets source bounds)
  | j => if j.word? == some "open" then some .anything else none

/-- A domain inside data. -/
def toJson : FacetDomain → Json
  | .values names => .object [("values", .strings names)]
  | .anything => .string "open"
  | .buckets source bounds =>
    .object [("buckets", .object [("source", .string source),
      ("bounds", .array (bounds.map fun b => (FieldValue.number b).toJson))])]

end FacetDomain

namespace FieldSpec

/-- A declared field. -/
def ofJson? (j : Json) : Option FieldSpec := do
  let name ← j.required "name" Json.text?
  let kind ← j.required "kind" FieldKind.ofJson?
  let searchable ← j.required "searchable" Json.bool?
  let sensitive ← j.required "sensitive" Json.bool?
  let facet ← j.optional "facet" FacetDomain.ofJson?
  some ⟨name, kind, searchable, sensitive, facet⟩

/-- A declared field inside data. -/
def toJson (f : FieldSpec) : Json :=
  .object
    [("name", .string f.name), ("kind", .string f.kind.name), ("searchable", .bool f.searchable),
      ("sensitive", .bool f.sensitive),
      ("facet", match f.facet with
        | some d => d.toJson
        | none => .null)]

end FieldSpec

namespace EntitySchema

/-- A schema. -/
def ofJson? (j : Json) : Option EntitySchema := do
  let entityType ← j.required "entity_type" EntityType.ofJson?
  let titleFields ← j.required "title_fields" Json.texts?
  let fields ← j.required "fields" (Json.listOf? FieldSpec.ofJson?)
  some ⟨entityType, titleFields, fields⟩

/-- A schema inside data. -/
def toJson (s : EntitySchema) : Json :=
  .object
    [("entity_type", .string s.entityType.name), ("title_fields", .strings s.titleFields),
      ("fields", .array (s.fields.map FieldSpec.toJson))]

end EntitySchema

/-- A registry from a list of schemas. -/
def SchemaRegistry.ofJson? (j : Json) : Option SchemaRegistry :=
  (j.listOf? EntitySchema.ofJson?).map SchemaRegistry.ofList

end CatalogSearch

import CatalogSearch.Catalog.EntityType
import CatalogSearch.Catalog.FieldValue
import CatalogSearch.Number.Integer

/-!
# Schemas

A schema declares the fields that records of a type may carry: how a field is typed, whether its
text is searched, whether it is confidential, and over which domain it is counted as a facet.  A
catalog has at most one schema for a type.
-/

set_option autoImplicit false

namespace CatalogSearch

/-- The kind of value a declared field holds. -/
inductive FieldKind where
  | text
  | keyword
  | number
  | boolean
  | timestamp
  deriving DecidableEq, Repr, Inhabited

namespace FieldKind

/-- Every kind. -/
def all : List FieldKind := [.text, .keyword, .number, .boolean, .timestamp]

/-- The name of a kind in data. -/
def name : FieldKind → String
  | .text => "text"
  | .keyword => "keyword"
  | .number => "number"
  | .boolean => "boolean"
  | .timestamp => "timestamp"

/-- The name of a kind in messages. -/
def title : FieldKind → String
  | .text => "Text"
  | .keyword => "Keyword"
  | .number => "Number"
  | .boolean => "Boolean"
  | .timestamp => "Timestamp"

/-- The kind with exactly this name. -/
def ofName? (s : String) : Option FieldKind := all.find? (fun k => k.name == s)

end FieldKind

/-! ## Facet domains -/

/-- The text of a bound in a bucket label.  A whole bound is written as a signed integer of 64 bits,
clamped to their range. -/
def boundText (bound : Float) : String :=
  match Number.whole? bound with
  | some n => FieldValue.intText (Number.clampInt64 n)
  | none => Number.plainText bound

/-- The label of the bucket from one bound up to the next; the last bucket has no end. -/
def bucketLabel (lower : Float) (upper : Option Float) : String :=
  match upper with
  | some upper => boundText lower ++ "-" ++ boundText upper
  | none => boundText lower ++ "+"

/-- The labels of the buckets that begin at each bound. -/
def bucketLabels : List Float → List String
  | [] => []
  | lower :: rest => bucketLabel lower rest.head? :: bucketLabels rest

/-- The label of the bucket that a number falls into: the last one whose lower bound it reaches.  A
number below every bound and one that is not finite fall into none. -/
def bucketFor? (bounds : List Float) (value : Float) : Option String :=
  if value.isFinite then
    ((bounds.zip (bucketLabels bounds)).reverse.find? (fun b => decide (b.1 ≤ value))).map (·.2)
  else none

/-- The values that a facet counts by name. -/
inductive FacetDomain where
  /-- The given values. -/
  | values (names : List String)
  /-- Every value. -/
  | anything
  /-- The labels of the buckets that numbers of a source field fall into. -/
  | buckets (source : String) (bounds : List Float)

namespace FacetDomain

/-- Whether a value belongs to the domain. -/
def admits (d : FacetDomain) (value : String) : Bool :=
  match d with
  | .values names => names.any (· == value)
  | .anything => true
  | .buckets _ bounds => (bucketLabels bounds).any (· == value)

end FacetDomain

/-! ## Fields and schemas -/

/-- A declared field. -/
structure FieldSpec where
  name : String
  kind : FieldKind
  /-- Its text is searched and suggested. -/
  searchable : Bool := false
  /-- It is shown only to those who may read confidential fields of the record. -/
  sensitive : Bool := false
  /-- The domain over which it is counted, if it is a facet. -/
  facet : Option FacetDomain := none

namespace FieldSpec

/-- Whether the field is counted as a facet. -/
def isFacet (f : FieldSpec) : Bool := f.facet.isSome

/-- The source field and bounds of a field whose value is derived from another one. -/
def bucketSource? (f : FieldSpec) : Option (String × List Float) :=
  match f.facet with
  | some (.buckets source bounds) => some (source, bounds)
  | _ => none

/-- A field of text. -/
def text (name : String) : FieldSpec := ⟨name, .text, false, false, none⟩

/-- A field of one keyword. -/
def keyword (name : String) : FieldSpec := ⟨name, .keyword, false, false, none⟩

/-- A field of a number. -/
def number (name : String) : FieldSpec := ⟨name, .number, false, false, none⟩

/-- A field of a truth value. -/
def boolean (name : String) : FieldSpec := ⟨name, .boolean, false, false, none⟩

/-- A field of an instant. -/
def timestamp (name : String) : FieldSpec := ⟨name, .timestamp, false, false, none⟩

/-- The field of a given kind with nothing else declared. -/
def ofKind (kind : FieldKind) (name : String) : FieldSpec := ⟨name, kind, false, false, none⟩

/-- The field, searched. -/
def asSearchable (f : FieldSpec) : FieldSpec := { f with searchable := true }

/-- The field, confidential. -/
def asSensitive (f : FieldSpec) : FieldSpec := { f with sensitive := true }

/-- The field, counted over a domain. -/
def asFacet (f : FieldSpec) (domain : FacetDomain) : FieldSpec := { f with facet := some domain }

end FieldSpec

/-- What records of one type may carry. -/
structure EntitySchema where
  entityType : EntityType
  /-- The members of a record that may give its title, the preferred one first. -/
  titleFields : List String
  fields : List FieldSpec

namespace EntitySchema

/-- The declaration of a field; the first one counts. -/
def field? (s : EntitySchema) (name : String) : Option FieldSpec :=
  s.fields.find? (fun f => f.name == name)

/-- Whether a field is declared. -/
def declares (s : EntitySchema) (name : String) : Bool := (s.field? name).isSome

/-- Whether a field is declared confidential. -/
def isSensitive (s : EntitySchema) (name : String) : Bool :=
  ((s.field? name).map (·.sensitive)).getD false

/-- The declared facets. -/
def facets (s : EntitySchema) : List FieldSpec := s.fields.filter (·.isFacet)

end EntitySchema

/-- The schemas of a catalog, at most one for a type. -/
structure SchemaRegistry where
  schemas : Std.ExtTreeMap EntityType EntitySchema

namespace SchemaRegistry

/-- A registry of schemas; of two for one type the later stands. -/
def ofList (schemas : List EntitySchema) : SchemaRegistry :=
  ⟨schemas.foldl (fun m s => m.insert s.entityType s) ∅⟩

/-- The schema of a type. -/
def schema? (r : SchemaRegistry) (t : EntityType) : Option EntitySchema := r.schemas[t]?

/-- Whether one of the types declares a field. -/
def declaresAny (r : SchemaRegistry) (types : List EntityType) (field : String) : Bool :=
  (types.filterMap r.schema?).any (·.declares field)

/-- Whether a type declares a field confidential. -/
def isSensitive (r : SchemaRegistry) (t : EntityType) (field : String) : Bool :=
  ((r.schema? t).map (·.isSensitive field)).getD false

/-- The facets of several types, in the order first declared; of two declarations of one name the
first gives the domain. -/
def facets (r : SchemaRegistry) (types : List EntityType) : List (String × FacetDomain) :=
  let declared := (types.filterMap r.schema?).flatMap fun s =>
    s.fields.filterMap fun f => f.facet.map fun d => (f.name, d)
  declared.foldl
    (fun kept facet => if kept.any (fun k => k.1 == facet.1) then kept else kept ++ [facet]) []

end SchemaRegistry

end CatalogSearch

import CatalogSearch.Catalog.StandardSchemas
import Std.Data.ExtTreeSet

/-!
# Documents

Every record becomes a document: titles and descriptions to search, typed fields to show, filter and
count, and a version that decides which of two writes stands.  A document belongs to a tenant or to
everybody, and its key is its tenant, type and id.
-/

set_option autoImplicit false

namespace CatalogSearch

open CatalogSearch.Text CatalogSearch.Time

/-- A set of names, in order. -/
abbrev NameSet := Std.ExtTreeSet String

/-- Fields by name, in order. -/
abbrev FieldMap := Std.ExtTreeMap String FieldValue

/-! ## Keys -/

/-- Whether everybody may find a tenant's document, or only those who may read that tenant. -/
inductive Visibility where
  | listed
  | unlisted
  deriving DecidableEq, Repr, Inhabited

namespace Visibility

/-- The name of a visibility in data. -/
def name : Visibility → String
  | .listed => "public"
  | .unlisted => "private"

/-- The visibility with exactly this name. -/
def ofName? (s : String) : Option Visibility :=
  [Visibility.listed, .unlisted].find? (fun v => v.name == s)

end Visibility

/-- The tenant a text names: a blank text names none, which is everybody. -/
def tenant? (text : Option String) : Option String := nonBlank? text

/-- The identity of a document. -/
structure DocumentKey where
  tenant : Option String
  entityType : EntityType
  id : String
  deriving DecidableEq, Repr, Inhabited

namespace DocumentKey

/-- Keys in order of tenant, with everybody's documents first, then type, then id. -/
instance : Ord DocumentKey :=
  ⟨compareLex (compareOn (·.tenant)) (compareLex (compareOn (·.entityType)) (compareOn (·.id)))⟩

instance : Std.TransOrd DocumentKey :=
  inferInstanceAs (Std.TransCmp (compareLex (compareOn DocumentKey.tenant)
    (compareLex (compareOn DocumentKey.entityType) (compareOn DocumentKey.id))))

instance : Std.LawfulEqOrd DocumentKey where
  eq_of_compare {a b} h := by
    have h' : compareLex (compareOn DocumentKey.tenant)
        (compareLex (compareOn DocumentKey.entityType) (compareOn DocumentKey.id)) a b = .eq := h
    simp only [compareLex_eq_eq, compareOn] at h'
    obtain ⟨ht, hy, hi⟩ := h'
    cases a
    cases b
    simp_all

/-- The key with these parts, once the tenant is resolved. -/
def resolve (tenant : Option String) (entityType : EntityType) (id : String) : DocumentKey :=
  ⟨tenant? tenant, entityType, id⟩

/-- A key as messages show it; a dash stands for no tenant. -/
def text (k : DocumentKey) : String :=
  k.tenant.getD "-" ++ "/" ++ k.entityType.name ++ "/" ++ k.id

end DocumentKey

/-! ## Documents -/

/-- A record as it is indexed. -/
structure Document where
  entityType : EntityType
  id : String
  /-- The owner; none for what everybody may read. -/
  tenant : Option String := none
  title : String
  description : String := ""
  fields : FieldMap := ∅
  /-- The fields counted as facets. -/
  facetFields : NameSet := ∅
  /-- The confidential fields. -/
  sensitiveFields : NameSet := ∅
  /-- Further texts that are searched and suggested. -/
  keywords : NameSet := ∅
  visibility : Visibility := .unlisted
  /-- The version: of two writes to a key the later stands. -/
  updatedAt : Instant

namespace Document

/-- The key of a document, with its tenant as written. -/
def key (d : Document) : DocumentKey := ⟨d.tenant, d.entityType, d.id⟩

/-- The document with its tenant resolved: a blank tenant is none. -/
def resolved (d : Document) : Document := { d with tenant := tenant? d.tenant }

/-- The document as a tenant's; a blank tenant is none. -/
def ofTenant (d : Document) (tenant : String) : Document := { d with tenant := tenant? (some tenant) }

/-- The document with a field. -/
def withField (d : Document) (name : String) (value : FieldValue) : Document :=
  { d with fields := d.fields.insert name value }

/-- The document with a field that is counted as a facet. -/
def withFacet (d : Document) (name : String) (value : FieldValue) : Document :=
  { d.withField name value with facetFields := d.facetFields.insert name }

/-- The document with a confidential field. -/
def withSensitive (d : Document) (name : String) (value : FieldValue) : Document :=
  { d.withField name value with sensitiveFields := d.sensitiveFields.insert name }

/-- The document with a further keyword. -/
def withKeyword (d : Document) (keyword : String) : Document :=
  { d with keywords := d.keywords.insert keyword }

/-- Whether the document belongs to everybody. -/
def isGlobal (d : Document) : Bool := d.tenant.isNone

/-- The value of a field. -/
def field? (d : Document) (name : String) : Option FieldValue := d.fields[name]?

/-- Whether the price is kept from those who may not read confidential fields. -/
def priceRestricted (d : Document) : Bool :=
  match d.field? priceRestrictedField with
  | some v => v.bool? == some true
  | none => false

end Document

/-! ## What makes a document invalid -/

/-- Why a record is not accepted. -/
inductive DocumentFault where
  /-- A document has a blank id. -/
  | blankId (entityType : EntityType)
  /-- A change names a blank id. -/
  | blankEventId (entityType : EntityType) (event : String)
  /-- A type has no schema. -/
  | noSchema (entityType : EntityType)
  /-- A field counted as a facet is not there. -/
  | missingFacet (key : DocumentKey) (field : String)
  /-- A confidential field is not there. -/
  | missingSensitive (key : DocumentKey) (field : String)
  /-- A member of a record is not of its declared kind. -/
  | wrongKind (key : DocumentKey) (field : String) (kind : FieldKind)
  /-- A reason given in words. -/
  | stated (reason : String)

namespace DocumentFault

/-- The fault in words. -/
def message : DocumentFault → String
  | .blankId t => t.name ++ " document has an empty id"
  | .blankEventId t event => t.name ++ " event " ++ event ++ " has an empty id"
  | .noSchema t => "no schema declared for " ++ t.name
  | .missingFacet key field =>
    "facet field '" ++ field ++ "' of " ++ key.text ++ " is not present in fields"
  | .missingSensitive key field =>
    "sensitive field '" ++ field ++ "' of " ++ key.text ++ " is not present in fields"
  | .wrongKind key field kind =>
    key.text ++ ": field '" ++ field ++ "' is not a valid " ++ kind.title
  | .stated reason => reason

end DocumentFault

namespace Document

/-- The first thing wrong with a document: a blank id, then a facet that is not among its fields,
then a confidential field that is not. -/
def fault? (d : Document) : Option DocumentFault :=
  if isBlankText d.id then some (.blankId d.entityType)
  else
    match d.facetFields.toList.find? (fun f => !d.fields.contains f) with
    | some field => some (.missingFacet d.key field)
    | none =>
      (d.sensitiveFields.toList.find? (fun f => !d.fields.contains f)).map (.missingSensitive d.key)

/-- Whether nothing is wrong with a document. -/
def isValid (d : Document) : Bool := d.fault?.isNone

end Document

end CatalogSearch

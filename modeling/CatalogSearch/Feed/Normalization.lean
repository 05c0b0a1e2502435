import CatalogSearch.Feed.ChangeEvent
import CatalogSearch.Json.Printer
import CatalogSearch.Text.Token

/-!
# From records to documents

A record becomes a document by the schema of its type: declared members are converted to their kinds
and marked as confidential and as facets, numbers are put into buckets, and the tokens of searchable
texts become keywords.  Members that the schema does not declare go nowhere but into the title and
the description.
-/

set_option autoImplicit false

namespace CatalogSearch

open CatalogSearch.Text CatalogSearch.Time

/-! ## Converting a member -/

/-- The value of a member that is to be of a kind; null is a value of every kind. -/
def FieldKind.convert? (kind : FieldKind) (raw : Json) : Option FieldValue :=
  match kind, raw with
  | _, .null => some .null
  | .text, .string s | .keyword, .string s => some (.text (trim s))
  | .text, .number n | .keyword, .number n => some (.text n.render)
  | .text, .bool b | .keyword, .bool b => some (.text (FieldValue.boolText b))
  | .number, .number n => some (.number n.toFloat)
  | .number, .string s => (Number.read? (trim s)).map .number
  | .boolean, .bool b => some (.bool b)
  | .boolean, .string s =>
    if trim s == "true" then some (.bool true)
    else if trim s == "false" then some (.bool false)
    else none
  | .timestamp, .string s => (Instant.parse? (trim s)).map .timestamp
  | _, _ => none

namespace Payload

/-- The text of a member that is a string. -/
def text? (p : Payload) (name : String) : Option String := p[name]?.bind Json.text?

/-- Whether a member is a string that says the given word, in whatever ASCII case. -/
def states (p : Payload) (name word : String) : Bool :=
  (p.text? name).any fun s => equalIgnoringAsciiCase (trim s) word

/-- Whether a member does not stand against approval: it is no string, or says it is approved. -/
def approves (p : Payload) (name : String) : Bool :=
  (p.text? name).all fun s => equalIgnoringAsciiCase (trim s) "approved"

/-- A record is listed when it is published and nothing stands against its approval. -/
def visibility (p : Payload) : Visibility :=
  if p.states "visibility" "public" && p.approves "status" && p.approves "company_status" then .listed
  else .unlisted

/-- The title: the first of the title members that is not blank. -/
def title (p : Payload) (titleFields : List String) : String :=
  (((titleFields.filterMap p.text?).map trim).find? (fun t => !t.isEmpty)).getD "Untitled"

end Payload

/-! ## Building a document -/

/-- The declared members of a record that hold values of their own, in the order declared, each
converted; the first that cannot be converted is the fault. -/
def EntitySchema.convertMembers (schema : EntitySchema) (key : DocumentKey) (p : Payload) :
    Except DocumentFault (List (FieldSpec × FieldValue)) :=
  (schema.fields.filterMap fun f =>
    if f.bucketSource?.isSome then none else p[f.name]?.map fun raw => (f, raw)).mapM
    fun (f, raw) =>
      match f.kind.convert? raw with
      | some value => .ok (f, value)
      | none => .error (.wrongKind key f.name f.kind)

namespace Document

/-- The document with a converted member. -/
def withMember (d : Document) (f : FieldSpec) (value : FieldValue) : Document :=
  { d with
    keywords :=
      match f.searchable, value.text? with
      | true, some s => (tokens s).foldl (·.insert ·) d.keywords
      | _, _ => d.keywords
    sensitiveFields := if f.sensitive then d.sensitiveFields.insert f.name else d.sensitiveFields
    facetFields := if f.isFacet then d.facetFields.insert f.name else d.facetFields
    fields := d.fields.insert f.name value }

/-- The document with a field for the bucket that another field's number falls into, if it falls into
one. -/
def withBucket (d : Document) (f : FieldSpec) : Document :=
  match f.bucketSource? with
  | none => d
  | some (source, bounds) =>
    match ((d.field? source).bind FieldValue.number?).bind (bucketFor? bounds) with
    | none => d
    | some label =>
      { d with
        facetFields := d.facetFields.insert f.name
        fields := d.fields.insert f.name (.text label) }

/-- The document with its price bucket confidential if its price is kept back. -/
def withGuardedPrice (d : Document) : Document :=
  if d.priceRestricted && d.fields.contains priceBucketField then
    { d with sensitiveFields := d.sensitiveFields.insert priceBucketField }
  else d

end Document

namespace ChangeEvent

/-- The document of a changed record. -/
def toDocument (schemas : SchemaRegistry) (e : ChangeEvent) : Except DocumentFault Document := do
  if isBlankText e.id then throw (.blankEventId e.entityType e.eventId.text)
  let some schema := schemas.schema? e.entityType | throw (.noSchema e.entityType)
  let members ← schema.convertMembers e.key e.payload
  let bare : Document := {
    entityType := e.entityType
    id := e.key.id
    tenant := e.key.tenant
    title := e.payload.title schema.titleFields
    description := (e.payload.text? "description").getD ""
    visibility := e.payload.visibility
    updatedAt := e.updatedAt
  }
  let d := members.foldl (fun d (f, value) => d.withMember f value) bare
  let d := schema.fields.foldl Document.withBucket d
  return d.withGuardedPrice

end ChangeEvent

end CatalogSearch

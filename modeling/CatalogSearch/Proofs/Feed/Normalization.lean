import CatalogSearch.Feed.Normalization
import CatalogSearch.Proofs.Collections.Folds

/-!
# Which record a document is of

Whatever the members of a changed record, the document made of it has the key and the version of the
change.
-/

set_option autoImplicit false

namespace CatalogSearch

open CatalogSearch.Text CatalogSearch.Time

/-- What is read off a success is read off what succeeded. -/
theorem exists_of_toOption_map {ε α β : Type} {result : Except ε α} {read : α → β} {b : β}
    (h : result.toOption.map read = some b) : ∃ a, result = .ok a ∧ read a = b := by
  cases result with
  | error e => cases h
  | ok a => exact ⟨a, rfl, Option.some.inj h⟩

/-- A tenant that has been resolved stays as it is. -/
theorem tenant?_tenant? (text : Option String) : tenant? (tenant? text) = tenant? text := by
  unfold tenant? nonBlank?
  rw [Option.filter_filter]
  simp only [Bool.and_self]

/-- A key that has been resolved stays as it is. -/
theorem DocumentKey.resolve_resolve (tenant : Option String) (t : EntityType) (id : String) :
    resolve (resolve tenant t id).tenant t id = resolve tenant t id := by
  simp only [resolve, tenant?_tenant?]

namespace Document

/-- A bucket changes nothing of a document but its fields and facets. -/
theorem withBucket_eq (d : Document) (f : FieldSpec) :
    d.withBucket f =
      { d with
        facetFields := (d.withBucket f).facetFields
        fields := (d.withBucket f).fields } := by
  unfold withBucket
  split
  · rfl
  · split
    · rfl
    · rfl

/-- A price that is kept back changes nothing of a document but what is confidential. -/
theorem withGuardedPrice_eq (d : Document) :
    d.withGuardedPrice = { d with sensitiveFields := d.withGuardedPrice.sensitiveFields } := by
  unfold withGuardedPrice
  split
  · rfl
  · rfl

/-- The record and the version that a document is of. -/
def identity (d : Document) : DocumentKey × Instant := (d.key, d.updatedAt)

theorem identity_withMember (d : Document) (f : FieldSpec) (value : FieldValue) :
    (d.withMember f value).identity = d.identity := rfl

theorem identity_withBucket (d : Document) (f : FieldSpec) :
    (d.withBucket f).identity = d.identity := by
  rw [withBucket_eq]
  rfl

theorem identity_withGuardedPrice (d : Document) : d.withGuardedPrice.identity = d.identity := by
  rw [withGuardedPrice_eq]
  rfl

end Document

namespace ChangeEvent

/-- The document of a change with the texts of its record and no fields. -/
def bare (e : ChangeEvent) (schema : EntitySchema) : Document where
  entityType := e.entityType
  id := e.key.id
  tenant := e.key.tenant
  title := e.payload.title schema.titleFields
  description := (e.payload.text? "description").getD ""
  visibility := e.payload.visibility
  updatedAt := e.updatedAt

/-- A change that has a document has an id, and its document is built from the members that its record has
of the declared ones, then from the buckets. -/
theorem built_of_toDocument {schemas : SchemaRegistry} {e : ChangeEvent} {d : Document}
    (h : e.toDocument schemas = .ok d) :
    isBlankText e.id = false ∧ ∃ schema members, schemas.schema? e.entityType = some schema ∧
      schema.convertMembers e.key e.payload = .ok members ∧
      d = (schema.fields.foldl Document.withBucket (members.foldl
        (fun d member => d.withMember member.1 member.2) (e.bare schema))).withGuardedPrice := by
  simp only [toDocument, bind, Except.bind, pure, Except.pure, throw, throwThe,
    MonadExceptOf.throw] at h
  split at h
  · cases h
  · rename_i hid
    split at h
    · rename_i schema hschema
      split at h
      · cases h
      · rename_i members hmembers
        exact ⟨Bool.eq_false_iff.mpr hid, schema, members, hschema, hmembers,
          (Except.ok.inj h).symm⟩
    · cases h

/-- A change that has a document is of a type that has a schema. -/
theorem exists_schema_of_toDocument {schemas : SchemaRegistry} {e : ChangeEvent} {d : Document}
    (h : e.toDocument schemas = .ok d) : ∃ schema, schemas.schema? e.entityType = some schema := by
  obtain ⟨_, schema, _, hschema, _, _⟩ := built_of_toDocument h
  exact ⟨schema, hschema⟩

/-- How a document is built by the schema of its type. -/
theorem built_of_schema {schemas : SchemaRegistry} {e : ChangeEvent} {d : Document}
    {schema : EntitySchema} (h : e.toDocument schemas = .ok d)
    (hschema : schemas.schema? e.entityType = some schema) :
    ∃ members, schema.convertMembers e.key e.payload = .ok members ∧
      d = (schema.fields.foldl Document.withBucket (members.foldl
        (fun d member => d.withMember member.1 member.2) (e.bare schema))).withGuardedPrice := by
  obtain ⟨_, schema', members, hschema', hmembers, hbuilt⟩ := built_of_toDocument h
  rw [hschema] at hschema'
  cases hschema'
  exact ⟨members, hmembers, hbuilt⟩

/-- The document of a change is of the change's record and version. -/
theorem identity_toDocument {schemas : SchemaRegistry} {e : ChangeEvent} {d : Document}
    (h : e.toDocument schemas = .ok d) : d.key = e.key ∧ d.updatedAt = e.updatedAt := by
  obtain ⟨_, schema, members, _, _, rfl⟩ := built_of_toDocument h
  have hidentity := Document.identity_withGuardedPrice (schema.fields.foldl Document.withBucket
    (members.foldl (fun d member => d.withMember member.1 member.2) (e.bare schema)))
  rw [foldl_keeps _ Document.identity Document.identity_withBucket,
    foldl_keeps _ Document.identity fun d (member : FieldSpec × FieldValue) =>
      Document.identity_withMember d member.1 member.2] at hidentity
  exact ⟨congrArg Prod.fst hidentity, congrArg Prod.snd hidentity⟩

theorem entityType_toDocument {schemas : SchemaRegistry} {e : ChangeEvent} {d : Document}
    (h : e.toDocument schemas = .ok d) : d.entityType = e.entityType :=
  congrArg DocumentKey.entityType (identity_toDocument h).1

/-- The document of a change is kept as it is. -/
theorem resolved_toDocument {schemas : SchemaRegistry} {e : ChangeEvent} {d : Document}
    (h : e.toDocument schemas = .ok d) : d.resolved = d := by
  have htenant : d.tenant = tenant? e.tenant :=
    congrArg DocumentKey.tenant (identity_toDocument h).1
  unfold Document.resolved
  rw [htenant, tenant?_tenant?, ← htenant]

end ChangeEvent

end CatalogSearch

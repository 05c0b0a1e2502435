import CatalogSearch.Proofs.Collections.OrderedMap
import CatalogSearch.Proofs.Feed.Declared

/-!
# Which keywords a record gives

The keywords of a document made of a record are tokens: those of the texts of its searchable fields.  No
text goes missing when no two fields are declared under one name and what is searched is no bucket.
-/

set_option autoImplicit false

namespace CatalogSearch

open CatalogSearch.Text CatalogSearch.Time

namespace EntitySchema

/-- A schema that declares every field once and searches nothing that is made of another field. -/
structure Unmixed (schema : EntitySchema) : Prop where
  names : (schema.fields.map (·.name)).Nodup
  searched : ∀ f ∈ schema.fields, f.searchable = true → f.bucketSource? = none

end EntitySchema

namespace Document

/-! ## Members -/

theorem mem_keywords_withMember {d : Document} {f : FieldSpec} {value : FieldValue} {k : String} :
    k ∈ (d.withMember f value).keywords ↔
      k ∈ d.keywords ∨ f.searchable = true ∧ ∃ s, value = .text s ∧ k ∈ tokens s := by
  unfold withMember
  cases f.searchable with
  | false => simp
  | true =>
    cases value with
    | text s => simp [FieldValue.text?, OrderedMap.mem_foldl_insert]
    | null | bool _ | number _ | timestamp _ => simp [FieldValue.text?]

/-- The keywords of a document with members are its own and the tokens of what is searched. -/
theorem mem_keywords_foldl_withMember (members : List (FieldSpec × FieldValue)) (d : Document)
    (k : String) :
    k ∈ (members.foldl (fun d member => d.withMember member.1 member.2) d).keywords ↔
      k ∈ d.keywords ∨ ∃ member ∈ members, member.1.searchable = true ∧
        ∃ s, member.2 = .text s ∧ k ∈ tokens s :=
  holds_foldl_iff _ (fun d : Document => k ∈ d.keywords)
    (fun member : FieldSpec × FieldValue => member.1.searchable = true ∧
      ∃ s, member.2 = .text s ∧ k ∈ tokens s)
    (fun _ _ => mem_keywords_withMember) members d

/-! ## Buckets -/

theorem keywords_withBucket (d : Document) (f : FieldSpec) :
    (d.withBucket f).keywords = d.keywords := by
  rw [withBucket_eq]

theorem keywords_withGuardedPrice (d : Document) : d.withGuardedPrice.keywords = d.keywords := by
  rw [withGuardedPrice_eq]

end Document

namespace ChangeEvent

variable {schemas : SchemaRegistry} {e : ChangeEvent} {d : Document} {schema : EntitySchema}

/-- The keywords of the document of a change are the tokens of the texts that its members convert to where
they are searched. -/
theorem mem_keywords_iff_converts (h : e.toDocument schemas = .ok d)
    (hschema : schemas.schema? e.entityType = some schema) (k : String) :
    k ∈ d.keywords ↔ ∃ f s, schema.Converts e.payload f (.text s) ∧ f.searchable = true ∧
      k ∈ tokens s := by
  obtain ⟨members, hmembers, rfl⟩ := built_of_schema h hschema
  have hbare : k ∉ (e.bare schema).keywords := Std.ExtTreeSet.not_mem_empty
  rw [Document.keywords_withGuardedPrice,
    foldl_keeps _ Document.keywords Document.keywords_withBucket,
    Document.mem_keywords_foldl_withMember, or_iff_right hbare]
  constructor
  · rintro ⟨⟨f, value⟩, hmember, hsearched, s, rfl, hk⟩
    exact ⟨f, s, (EntitySchema.mem_convertMembers_iff hmembers).mp hmember, hsearched, hk⟩
  · rintro ⟨f, s, hconverts, hsearched, hk⟩
    have hmember := (EntitySchema.mem_convertMembers_iff hmembers).mpr hconverts
    exact ⟨(f, .text s), hmember, hsearched, s, rfl, hk⟩

/-- Where every field is declared once, the keywords are the tokens of the texts that searchable fields hold,
if they have values of their own. -/
theorem mem_keywords_toDocument (h : e.toDocument schemas = .ok d)
    (hschema : schemas.schema? e.entityType = some schema) (honce : schema.DeclaresOnce) (k : String) :
    k ∈ d.keywords ↔ ∃ f ∈ schema.fields, f.bucketSource? = none ∧ f.searchable = true ∧
      ∃ s, d.field? f.name = some (.text s) ∧ k ∈ tokens s := by
  rw [mem_keywords_iff_converts h hschema]
  constructor
  · rintro ⟨f, s, ⟨hf, hown, raw, hraw, hconverted⟩, hsearched, hk⟩
    refine ⟨f, hf, hown, hsearched, s, ?_, hk⟩
    rw [field?_toDocument_of_own h hschema honce hf hown, hraw, Option.bind_some, hconverted]
  · rintro ⟨f, hf, hown, hsearched, s, hs, hk⟩
    rw [field?_toDocument_of_own h hschema honce hf hown] at hs
    exact ⟨f, s, ⟨hf, hown, Option.bind_eq_some_iff.mp hs⟩, hsearched, hk⟩

/-- The keywords of the document of a change are tokens; and the tokens of the text of a searchable
field are keywords. -/
theorem keywords_toDocument (h : e.toDocument schemas = .ok d) :
    ∃ schema, schemas.schema? e.entityType = some schema ∧
      (∀ k ∈ d.keywords, ∃ s, k ∈ tokens s) ∧
      (schema.Unmixed → ∀ f ∈ schema.fields, f.searchable = true →
        ∀ s, d.field? f.name = some (.text s) → ∀ t ∈ tokens s, t ∈ d.keywords) := by
  obtain ⟨schema, hschema⟩ := exists_schema_of_toDocument h
  refine ⟨schema, hschema, fun k hk => ?_, fun hunmixed f hf hsearched s hs t ht => ?_⟩
  · obtain ⟨_, s, _, _, hs⟩ := (mem_keywords_iff_converts h hschema k).mp hk
    exact ⟨s, hs⟩
  · have hown := hunmixed.searched f hf hsearched
    exact (mem_keywords_toDocument h hschema hunmixed.names t).mpr
      ⟨f, hf, hown, hsearched, s, hs, ht⟩

end ChangeEvent

/-- The schemas of a marketplace catalog are unmixed, and there is one for every type. -/
theorem SchemaRegistry.exists_standard (t : EntityType) :
    ∃ schema, standard.schema? t = some schema ∧ schema.Unmixed := by
  cases t with
  | part => exact ⟨partSchema, rfl, by decide, by decide⟩
  | equipment => exact ⟨equipmentSchema, rfl, by decide, by decide⟩
  | company => exact ⟨companySchema, rfl, by decide, by decide⟩
  | listing => exact ⟨listingSchema, rfl, by decide, by decide⟩
  | service => exact ⟨serviceSchema, rfl, by decide, by decide⟩

/-- The schemas of a marketplace catalog declare every field once. -/
theorem SchemaRegistry.declareOnce_standard : standard.DeclareOnce := by
  intro t schema hschema
  obtain ⟨schema', hschema', hunmixed⟩ := exists_standard t
  rw [hschema] at hschema'
  cases hschema'
  exact hunmixed.names

end CatalogSearch

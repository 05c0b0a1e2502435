import CatalogSearch.Proofs.Catalog.Document
import CatalogSearch.Proofs.Feed.Fields

/-!
# How a document is built

The document of a changed record begins with the texts of the record and without fields.  Its members are
put in one after the other, each converted to its kind, then the buckets that its numbers fall into; last,
the bucket of a price that is kept back is marked as confidential.  What holds at the beginning and is kept
by every one of these steps holds of the document.
-/

set_option autoImplicit false

namespace CatalogSearch

open CatalogSearch.Text CatalogSearch.Time

namespace EntitySchema

variable {schema : EntitySchema} {p : Payload} {f : FieldSpec} {value : FieldValue}

/-- A field is declared with a value of its own, and a member of the record converts to it. -/
structure Converts (schema : EntitySchema) (p : Payload) (f : FieldSpec) (value : FieldValue) :
    Prop where
  declared : f ∈ schema.fields
  own : f.bucketSource? = none
  converted : ∃ raw, p[f.name]? = some raw ∧ f.kind.convert? raw = some value

theorem mem_convertMembers_iff {key : DocumentKey} {members : List (FieldSpec × FieldValue)}
    (h : schema.convertMembers key p = .ok members) :
    (f, value) ∈ members ↔ schema.Converts p f value := by
  constructor
  · intro hmem
    obtain ⟨hf, hown, hconverted⟩ := converted_of_mem h hmem
    exact ⟨hf, hown, hconverted⟩
  · rintro ⟨hf, hown, raw, hraw, hconverted⟩
    obtain ⟨value', hmem, hconverted'⟩ := exists_mem_of_declared h hf hown hraw
    rw [hconverted'] at hconverted
    exact Option.some.inj hconverted ▸ hmem

end EntitySchema

namespace Document

variable {d : Document} {f : FieldSpec} {name label : String}

/-! ## Steps -/

/-- The number that a field holds. -/
def numberAt? (d : Document) (name : String) : Option Float :=
  (d.field? name).bind FieldValue.number?

/-- The label of the bucket that a declared field gets, if it gets one. -/
def bucketLabel? (d : Document) (f : FieldSpec) : Option String :=
  f.bucketSource?.bind fun bucket => (d.numberAt? bucket.1).bind (bucketFor? bucket.2)

theorem withBucket_of_none (h : d.bucketLabel? f = none) : d.withBucket f = d := by
  unfold withBucket
  unfold bucketLabel? at h
  split
  · rfl
  · rename_i source bounds hbucket
    rw [hbucket, Option.bind_some, numberAt?] at h
    rw [h]

theorem withBucket_of_some (h : d.bucketLabel? f = some label) :
    d.withBucket f =
      { d with
        facetFields := d.facetFields.insert f.name
        fields := d.fields.insert f.name (.text label) } := by
  unfold withBucket
  unfold bucketLabel? at h
  split
  · rename_i hbucket
    rw [hbucket] at h
    cases h
  · rename_i source bounds hbucket
    rw [hbucket, Option.bind_some, numberAt?] at h
    rw [h]

/-- Only a field that is made of another one gets a bucket. -/
theorem exists_of_bucketLabel? (h : d.bucketLabel? f = some label) :
    ∃ source bounds, f.bucketSource? = some (source, bounds) ∧ label ∈ bucketLabels bounds := by
  obtain ⟨⟨source, bounds⟩, hbucket, hlabel⟩ := Option.bind_eq_some_iff.mp h
  obtain ⟨x, _, hlabel⟩ := Option.bind_eq_some_iff.mp hlabel
  exact ⟨source, bounds, hbucket, mem_bucketLabels_of_bucketFor? hlabel⟩

theorem mem_fields_withMember {value : FieldValue} :
    name ∈ (d.withMember f value).fields ↔ name ∈ d.fields ∨ f.name = name := by
  rw [withMember, Std.ExtTreeMap.mem_insert, Std.compare_eq_iff_eq, or_comm]

theorem mem_fields_foldl_withMember (members : List (FieldSpec × FieldValue)) (d : Document) :
    name ∈ (members.foldl (fun d member => d.withMember member.1 member.2) d).fields ↔
      name ∈ d.fields ∨ ∃ member ∈ members, member.1.name = name :=
  holds_foldl_iff _ (fun d : Document => name ∈ d.fields)
    (fun member : FieldSpec × FieldValue => member.1.name = name)
    (fun _ _ => mem_fields_withMember) members d

theorem mem_fields_withBucket :
    name ∈ (d.withBucket f).fields ↔
      name ∈ d.fields ∨ f.name = name ∧ (d.bucketLabel? f).isSome = true := by
  cases hlabel : d.bucketLabel? f with
  | none =>
    rw [withBucket_of_none hlabel]
    simp
  | some label =>
    rw [withBucket_of_some hlabel, Std.ExtTreeMap.mem_insert, Std.compare_eq_iff_eq, or_comm]
    simp

end Document

namespace ChangeEvent

variable {schemas : SchemaRegistry} {e : ChangeEvent} {d : Document} {schema : EntitySchema}

/-! ## The whole -/

/-- What holds of the bare document of a change and is kept by each step holds of the document of the
change. -/
theorem holds_of_toDocument {P : Document → Prop} (h : e.toDocument schemas = .ok d)
    (hschema : schemas.schema? e.entityType = some schema) (bare : P (e.bare schema))
    (member : ∀ f value, schema.Converts e.payload f value → ∀ d, P d → P (d.withMember f value))
    (bucket : ∀ f ∈ schema.fields, ∀ d, P d → P (d.withBucket f))
    (guarded : ∀ d, P d → P d.withGuardedPrice) : P d := by
  obtain ⟨members, hmembers, rfl⟩ := built_of_schema h hschema
  refine guarded _ (List.foldlRecOn schema.fields _ ?_ fun d hd f hf => bucket f hf d hd)
  refine List.foldlRecOn members _ bare fun d hd convertedMember hmem => ?_
  exact member _ _ ((EntitySchema.mem_convertMembers_iff hmembers).mp hmem) d hd

end ChangeEvent

end CatalogSearch

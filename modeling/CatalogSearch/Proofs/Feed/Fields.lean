import CatalogSearch.Proofs.Feed.Normalization
import CatalogSearch.Proofs.Number.Printed

/-!
# Which fields a record gives

A field of a document made of a record holds a member of the record, converted to the kind that is
declared, or the label of a bucket.  Either way a text is stored as it is when it is trimmed.  There is a
document when every member converts that is to be one of its fields.
-/

set_option autoImplicit false

namespace CatalogSearch

open CatalogSearch.Text CatalogSearch.Time

namespace FieldKind

/-- A text that a member is converted to is trimmed. -/
theorem trim_of_convert? {kind : FieldKind} {raw : Json} {s : String}
    (h : kind.convert? raw = some (.text s)) : trim s = s := by
  unfold convert? at h
  split at h
  · cases h
  · cases h
    exact trim_trim _
  · cases h
    exact trim_trim _
  · cases h
    exact trim_eq_self_of_solid (Json.Number.solid_render _)
  · cases h
    exact trim_eq_self_of_solid (Json.Number.solid_render _)
  · cases h
    exact trim_eq_self_of_solid (FieldValue.solid_boolText _)
  · cases h
    exact trim_eq_self_of_solid (FieldValue.solid_boolText _)
  · cases h
  · obtain ⟨_, _, hvalue⟩ := Option.map_eq_some_iff.mp h
    cases hvalue
  · cases h
  · split at h
    · cases h
    · split at h
      · cases h
      · cases h
  · obtain ⟨_, _, hvalue⟩ := Option.map_eq_some_iff.mp h
    cases hvalue
  · cases h

/-- A keyword is a text, or null. -/
theorem text_of_convert?_keyword {raw : Json} {value : FieldValue}
    (h : FieldKind.keyword.convert? raw = some value) : value = .null ∨ ∃ s, value = .text s := by
  cases raw with
  | null => exact Or.inl (Option.some.inj h).symm
  | string s => exact Or.inr ⟨_, (Option.some.inj h).symm⟩
  | number n => exact Or.inr ⟨_, (Option.some.inj h).symm⟩
  | bool b => exact Or.inr ⟨_, (Option.some.inj h).symm⟩
  | array items => cases h
  | object members => cases h

end FieldKind

namespace EntitySchema

variable {schema : EntitySchema} {key : DocumentKey} {p : Payload} {f : FieldSpec}
  {members : List (FieldSpec × FieldValue)}

/-- The members of a record that are declared with values of their own, in the order declared. -/
def ownMembers (schema : EntitySchema) (p : Payload) : List (FieldSpec × Json) :=
  schema.fields.filterMap fun f =>
    if f.bucketSource?.isSome then none else p[f.name]?.map fun raw => (f, raw)

theorem mem_ownMembers_iff {raw : Json} :
    (f, raw) ∈ schema.ownMembers p ↔
      f ∈ schema.fields ∧ f.bucketSource? = none ∧ p[f.name]? = some raw := by
  rw [ownMembers, List.mem_filterMap]
  constructor
  · rintro ⟨f', hf', hsome⟩
    split at hsome
    · cases hsome
    · rename_i hbucket
      obtain ⟨raw', hraw, heq⟩ := Option.map_eq_some_iff.mp hsome
      cases heq
      exact ⟨hf', Option.not_isSome_iff_eq_none.mp hbucket, hraw⟩
  · rintro ⟨hf, hown, hraw⟩
    refine ⟨f, hf, ?_⟩
    rw [hown, hraw]
    rfl

/-- A converted member is the record's, of the kind that is declared, and no bucket. -/
theorem converted_of_mem (h : schema.convertMembers key p = .ok members)
    {member : FieldSpec × FieldValue} (hmember : member ∈ members) :
    member.1 ∈ schema.fields ∧ member.1.bucketSource? = none ∧
      ∃ raw, p[member.1.name]? = some raw ∧ member.1.kind.convert? raw = some member.2 := by
  obtain ⟨⟨f, raw⟩, hmem, hconverted⟩ := exists_of_mem_mapM h hmember
  obtain ⟨hf, hown, hraw⟩ := mem_ownMembers_iff.mp hmem
  simp only at hconverted
  split at hconverted
  · rename_i value hvalue
    cases hconverted
    exact ⟨hf, hown, raw, hraw, hvalue⟩
  · cases hconverted

/-- A member that is declared with a value of its own is converted. -/
theorem exists_mem_of_declared (h : schema.convertMembers key p = .ok members)
    (hf : f ∈ schema.fields) (hown : f.bucketSource? = none) {raw : Json}
    (hraw : p[f.name]? = some raw) :
    ∃ value, (f, value) ∈ members ∧ f.kind.convert? raw = some value := by
  have hmem : (f, raw) ∈ schema.ownMembers p := mem_ownMembers_iff.mpr ⟨hf, hown, hraw⟩
  obtain ⟨member, hmember, hconverted⟩ := exists_mem_of_mapM h hmem
  simp only at hconverted
  split at hconverted
  · rename_i value hvalue
    cases hconverted
    exact ⟨value, hmember, hvalue⟩
  · cases hconverted

/-- The members of a record convert when each one does that is declared with a value of its own. -/
theorem exists_convertMembers (key : DocumentKey)
    (h : ∀ f ∈ schema.fields, f.bucketSource? = none → ∀ raw, p[f.name]? = some raw →
      ∃ value, f.kind.convert? raw = some value) :
    ∃ members, schema.convertMembers key p = .ok members := by
  refine exists_mapM_eq_ok fun ⟨f, raw⟩ hmem => ?_
  obtain ⟨hf, hown, hraw⟩ := mem_ownMembers_iff.mp hmem
  obtain ⟨value, hvalue⟩ := h f hf hown raw hraw
  refine ⟨(f, value), ?_⟩
  simp only [hvalue]

end EntitySchema

namespace Document

/-- A field of a document with members is one of them or was there before. -/
theorem exists_of_field?_foldl_withMember (members : List (FieldSpec × FieldValue)) {d : Document}
    {name : String} {value : FieldValue}
    (h : (members.foldl (fun d member => d.withMember member.1 member.2) d).field? name =
      some value) :
    d.field? name = some value ∨ ∃ member ∈ members, member.1.name = name ∧ member.2 = value := by
  induction members generalizing d with
  | nil => exact Or.inl h
  | cons member rest ih =>
    rcases ih h with hfield | ⟨found, hfound, hname, hvalue⟩
    · unfold field? withMember at hfield
      rw [Std.ExtTreeMap.getElem?_insert] at hfield
      split at hfield
      · rename_i heq
        exact Or.inr ⟨member, List.mem_cons_self, Std.compare_eq_iff_eq.mp heq,
          Option.some.inj hfield⟩
      · exact Or.inl hfield
    · exact Or.inr ⟨found, List.mem_cons_of_mem _ hfound, hname, hvalue⟩

theorem field?_withBucket {d : Document} {f : FieldSpec} {name : String}
    (h : f.bucketSource? = none ∨ f.name ≠ name) : (d.withBucket f).field? name = d.field? name := by
  unfold withBucket
  split
  · rfl
  · rename_i hbucket
    rcases h with hnone | hname
    · rw [hnone] at hbucket
      cases hbucket
    · split
      · rfl
      · unfold field?
        rw [Std.ExtTreeMap.getElem?_insert, if_neg (by rwa [Std.compare_eq_iff_eq])]

/-- A number falls into a bucket by one of the labels. -/
theorem mem_bucketLabels_of_bucketFor? {bounds : List Float} {x : Float} {label : String}
    (h : bucketFor? bounds x = some label) : label ∈ bucketLabels bounds := by
  unfold bucketFor? at h
  split at h
  · obtain ⟨⟨bound, label'⟩, hfound, rfl⟩ := Option.map_eq_some_iff.mp h
    exact (List.of_mem_zip (List.mem_reverse.mp (List.mem_of_find?_eq_some hfound))).2
  · cases h

/-- A field of a document with a bucket is its label or was there before. -/
theorem exists_of_field?_withBucket {d : Document} {f : FieldSpec} {name : String}
    {value : FieldValue} (h : (d.withBucket f).field? name = some value) :
    d.field? name = some value ∨ f.name = name ∧ ∃ source bounds label,
      f.bucketSource? = some (source, bounds) ∧ label ∈ bucketLabels bounds ∧
        value = .text label := by
  unfold withBucket at h
  split at h
  · exact Or.inl h
  · rename_i source bounds hbucket
    split at h
    · exact Or.inl h
    · rename_i label hlabel
      unfold field? at h
      rw [Std.ExtTreeMap.getElem?_insert] at h
      split at h
      · rename_i heq
        obtain ⟨x, _, hlabel⟩ := Option.bind_eq_some_iff.mp hlabel
        exact Or.inr ⟨Std.compare_eq_iff_eq.mp heq, source, bounds, label, hbucket,
          mem_bucketLabels_of_bucketFor? hlabel, (Option.some.inj h).symm⟩
      · exact Or.inl h

/-- A field of a document with buckets is the label of one or was there before. -/
theorem exists_of_field?_foldl_withBucket (fields : List FieldSpec) {d : Document} {name : String}
    {value : FieldValue} (h : (fields.foldl withBucket d).field? name = some value) :
    d.field? name = some value ∨ ∃ f ∈ fields, f.name = name ∧ ∃ source bounds label,
      f.bucketSource? = some (source, bounds) ∧ label ∈ bucketLabels bounds ∧
        value = .text label := by
  induction fields generalizing d with
  | nil => exact Or.inl h
  | cons f rest ih =>
    rcases ih h with hfield | ⟨found, hfound, hlabel⟩
    · rcases exists_of_field?_withBucket hfield with hbefore | hlabel
      · exact Or.inl hbefore
      · exact Or.inr ⟨f, List.mem_cons_self, hlabel⟩
    · exact Or.inr ⟨found, List.mem_cons_of_mem _ hfound, hlabel⟩

theorem field?_foldl_withBucket {fields : List FieldSpec} {name : String}
    (h : ∀ f ∈ fields, f.bucketSource? = none ∨ f.name ≠ name) (d : Document) :
    (fields.foldl withBucket d).field? name = d.field? name := by
  induction fields generalizing d with
  | nil => rfl
  | cons f rest ih =>
    obtain ⟨hf, hrest⟩ := List.forall_mem_cons.mp h
    rw [List.foldl_cons, ih hrest, field?_withBucket hf]

theorem fields_withGuardedPrice (d : Document) : d.withGuardedPrice.fields = d.fields := by
  rw [withGuardedPrice_eq]

theorem field?_withGuardedPrice (d : Document) (name : String) :
    d.withGuardedPrice.field? name = d.field? name := by
  rw [field?, fields_withGuardedPrice, field?]

end Document

namespace EntitySchema

/-- A schema gives a field of a record a value: that of a member, converted to the kind declared, or the
label of a bucket. -/
def Gives (schema : EntitySchema) (p : Payload) (name : String) (value : FieldValue) : Prop :=
  ∃ f ∈ schema.fields, f.name = name ∧
    (f.bucketSource? = none ∧ (∃ raw, p[name]? = some raw ∧ f.kind.convert? raw = some value) ∨
      ∃ source bounds label, f.bucketSource? = some (source, bounds) ∧
        label ∈ bucketLabels bounds ∧ value = .text label)

theorem Gives.trim {schema : EntitySchema} {p : Payload} {name s : String}
    (h : schema.Gives p name (.text s)) : trim s = s := by
  obtain ⟨f, _, _, ⟨_, raw, _, hconverted⟩ | ⟨_, bounds, label, _, hlabel, hs⟩⟩ := h
  · exact FieldKind.trim_of_convert? hconverted
  · cases hs
    exact trim_eq_self_of_solid (solid_of_mem_bucketLabels hlabel)

end EntitySchema

namespace ChangeEvent

/-- A field of a document that has members and no buckets yet is one of them. -/
theorem exists_mem_of_field?_members {e : ChangeEvent} {schema : EntitySchema}
    {members : List (FieldSpec × FieldValue)} {name : String} {value : FieldValue}
    (h : (members.foldl (fun d member => d.withMember member.1 member.2) (e.bare schema)).field? name =
      some value) : ∃ member ∈ members, member.1.name = name ∧ member.2 = value := by
  refine (Document.exists_of_field?_foldl_withMember members h).resolve_left ?_
  rw [Document.field?, bare, Std.ExtTreeMap.getElem?_empty]
  exact (Option.some_ne_none value).symm

/-- A field of the document of a change is given by the schema of its type. -/
theorem gives_of_schema {schemas : SchemaRegistry} {e : ChangeEvent} {d : Document}
    {schema : EntitySchema} (h : e.toDocument schemas = .ok d)
    (hschema : schemas.schema? e.entityType = some schema) {name : String} {value : FieldValue}
    (hvalue : d.field? name = some value) : schema.Gives e.payload name value := by
  obtain ⟨members, hmembers, rfl⟩ := built_of_schema h hschema
  rw [Document.field?_withGuardedPrice] at hvalue
  rcases Document.exists_of_field?_foldl_withBucket schema.fields hvalue with
    hconverted | ⟨f, hf, hname, hlabel⟩
  · obtain ⟨member, hmember, hname, rfl⟩ := exists_mem_of_field?_members hconverted
    obtain ⟨hf, hbucket, hconverted⟩ := EntitySchema.converted_of_mem hmembers hmember
    rw [hname] at hconverted
    exact ⟨member.1, hf, hname, Or.inl ⟨hbucket, hconverted⟩⟩
  · exact ⟨f, hf, hname, Or.inr hlabel⟩

/-- The fields of the document of a change are given by the schema of its type. -/
theorem gives_of_toDocument {schemas : SchemaRegistry} {e : ChangeEvent} {d : Document}
    (h : e.toDocument schemas = .ok d) :
    ∃ schema, schemas.schema? d.entityType = some schema ∧
      ∀ name value, d.field? name = some value → schema.Gives e.payload name value := by
  obtain ⟨schema, hschema⟩ := exists_schema_of_toDocument h
  refine ⟨schema, ?_, fun _ _ hvalue => gives_of_schema h hschema hvalue⟩
  rw [entityType_toDocument h, hschema]

/-- A change has a document exactly when it has an id, its type has a schema, and each member that is declared
with a value of its own converts to the kind declared. -/
theorem exists_document_iff {schemas : SchemaRegistry} {e : ChangeEvent} :
    (∃ d, e.toDocument schemas = .ok d) ↔
      isBlankText e.id = false ∧ ∃ schema, schemas.schema? e.entityType = some schema ∧
        ∀ f ∈ schema.fields, f.bucketSource? = none → ∀ raw, e.payload[f.name]? = some raw →
          ∃ value, f.kind.convert? raw = some value := by
  constructor
  · rintro ⟨d, h⟩
    obtain ⟨hid, schema, members, hschema, hmembers, _⟩ := built_of_toDocument h
    refine ⟨hid, schema, hschema, fun f hf hown raw hraw => ?_⟩
    obtain ⟨value, _, hconverted⟩ := EntitySchema.exists_mem_of_declared hmembers hf hown hraw
    exact ⟨value, hconverted⟩
  · rintro ⟨hid, schema, hschema, hconverts⟩
    obtain ⟨members, hmembers⟩ := EntitySchema.exists_convertMembers e.key hconverts
    rw [toDocument, hid, hschema, if_neg Bool.false_ne_true]
    simp only [hmembers]
    exact ⟨_, rfl⟩

end ChangeEvent

end CatalogSearch

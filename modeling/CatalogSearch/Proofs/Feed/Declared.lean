import CatalogSearch.Proofs.Feed.Confidential
import Mathlib.Data.List.Nodup

/-!
# Documents are as their schemas declare

Where a schema declares every field once, the document made of a record holds of each declared field what
the record says: a member converted to the kind declared, or the bucket of the number that another field
holds.  The marks follow from the fields: a field is a facet where it is declared one, and the keywords are
the tokens of the texts that are searched.
-/

set_option autoImplicit false

namespace CatalogSearch

open CatalogSearch.Text CatalogSearch.Time

/-! ## Kinds -/

/-- A value is of a declared kind; texts and keywords are stored trimmed. -/
inductive FieldKind.Holds : FieldKind → FieldValue → Prop
  | text {s : String} (trimmed : trim s = s) : Holds .text (.text s)
  | keyword {s : String} (trimmed : trim s = s) : Holds .keyword (.text s)
  | number (x : Float) : Holds .number (.number x)
  | boolean (b : Bool) : Holds .boolean (.bool b)
  | timestamp (t : Instant) : Holds .timestamp (.timestamp t)

theorem FieldKind.convert?_null (kind : FieldKind) : kind.convert? .null = some .null := by
  cases kind with
  | text | keyword | number | boolean | timestamp => rfl

/-- A member that is not null is converted to a value of the kind declared. -/
theorem FieldKind.holds_of_convert? {kind : FieldKind} {raw : Json} {value : FieldValue}
    (hraw : raw ≠ .null) (h : kind.convert? raw = some value) : kind.Holds value := by
  have htrim : ∀ s, value = .text s → trim s = s := by
    rintro s rfl
    exact trim_of_convert? h
  cases kind with
  | text =>
    cases raw with
    | null => exact absurd rfl hraw
    | string s | number n | bool b =>
      obtain rfl := Option.some.inj h
      exact .text (htrim _ rfl)
    | array items | object members => cases h
  | keyword =>
    cases raw with
    | null => exact absurd rfl hraw
    | string s | number n | bool b =>
      obtain rfl := Option.some.inj h
      exact .keyword (htrim _ rfl)
    | array items | object members => cases h
  | number =>
    cases raw with
    | null => exact absurd rfl hraw
    | number n =>
      obtain rfl := Option.some.inj h
      exact .number _
    | string s =>
      rw [convert?] at h
      obtain ⟨x, _, rfl⟩ := Option.map_eq_some_iff.mp h
      exact .number x
    | bool b | array items | object members => cases h
  | boolean =>
    cases raw with
    | null => exact absurd rfl hraw
    | bool b =>
      obtain rfl := Option.some.inj h
      exact .boolean b
    | string s =>
      rw [convert?] at h
      split at h
      · obtain rfl := Option.some.inj h
        exact .boolean true
      · split at h
        · obtain rfl := Option.some.inj h
          exact .boolean false
        · cases h
    | number n | array items | object members => cases h
  | timestamp =>
    cases raw with
    | null => exact absurd rfl hraw
    | string s =>
      rw [convert?] at h
      obtain ⟨t, _, rfl⟩ := Option.map_eq_some_iff.mp h
      exact .timestamp t
    | bool b | number n | array items | object members => cases h

/-! ## Members -/

namespace EntitySchema

variable {schema : EntitySchema} {f g : FieldSpec}

/-- Every field is declared once. -/
def DeclaresOnce (schema : EntitySchema) : Prop := (schema.fields.map (·.name)).Nodup

theorem DeclaresOnce.eq_of_name (h : schema.DeclaresOnce) (hf : f ∈ schema.fields)
    (hg : g ∈ schema.fields) (hname : f.name = g.name) : f = g :=
  List.inj_on_of_nodup_map h hf hg hname

/-- A field that is declared once, with a value of its own, has no other. -/
theorem DeclaresOnce.holdsOwn (h : schema.DeclaresOnce) (hf : f ∈ schema.fields)
    (hown : f.bucketSource? = none) : schema.HoldsOwn f.name := by
  intro g hg hname
  rw [h.eq_of_name hg hf hname]
  exact hown

end EntitySchema

/-- Every schema declares every field once. -/
def SchemaRegistry.DeclareOnce (schemas : SchemaRegistry) : Prop :=
  ∀ t schema, schemas.schema? t = some schema → schema.DeclaresOnce

namespace ChangeEvent

variable {schemas : SchemaRegistry} {e : ChangeEvent} {d : Document} {schema : EntitySchema}
  {f : FieldSpec}

/-- A member that converts is a field of the document. -/
theorem mem_fields_of_converts (h : e.toDocument schemas = .ok d)
    (hschema : schemas.schema? e.entityType = some schema) {value : FieldValue}
    (hconverts : schema.Converts e.payload f value) : f.name ∈ d.fields := by
  obtain ⟨members, hmembers, rfl⟩ := built_of_schema h hschema
  have hconverted : (f, value) ∈ members :=
    (EntitySchema.mem_convertMembers_iff hmembers).mpr hconverts
  have hmember : f.name ∈ (members.foldl (fun d member => d.withMember member.1 member.2)
      (e.bare schema)).fields :=
    (Document.mem_fields_foldl_withMember members _).mpr (Or.inr ⟨(f, value), hconverted, rfl⟩)
  rw [Document.fields_withGuardedPrice]
  exact List.foldlRecOn (motive := fun d : Document => f.name ∈ d.fields) schema.fields
    Document.withBucket hmember fun d hd g _ => Document.mem_fields_withBucket.mpr (Or.inl hd)

/-- A member that is declared with a value of its own converts to it. -/
theorem exists_converts_of_toDocument (h : e.toDocument schemas = .ok d)
    (hschema : schemas.schema? e.entityType = some schema) (hf : f ∈ schema.fields)
    (hown : f.bucketSource? = none) {raw : Json} (hraw : e.payload[f.name]? = some raw) :
    ∃ value, schema.Converts e.payload f value := by
  obtain ⟨members, hmembers, _⟩ := built_of_schema h hschema
  obtain ⟨value, _, hconverted⟩ := EntitySchema.exists_mem_of_declared hmembers hf hown hraw
  exact ⟨value, hf, hown, raw, hraw, hconverted⟩

/-- A field that is declared once, with a value of its own, holds what the member of the record converts
to. -/
theorem field?_toDocument_of_own (h : e.toDocument schemas = .ok d)
    (hschema : schemas.schema? e.entityType = some schema) (honce : schema.DeclaresOnce)
    (hf : f ∈ schema.fields) (hown : f.bucketSource? = none) :
    d.field? f.name = e.payload[f.name]?.bind f.kind.convert? := by
  have hgiven : ∀ value, d.field? f.name = some value →
      e.payload[f.name]?.bind f.kind.convert? = some value := by
    intro value hvalue
    obtain ⟨g, hg, hname, ⟨_, raw, hraw, hconverted⟩ | ⟨_, _, _, hbucket, _⟩⟩ :=
      gives_of_schema h hschema hvalue
    · rw [honce.eq_of_name hg hf hname] at hconverted
      exact Option.bind_eq_some_iff.mpr ⟨raw, hraw, hconverted⟩
    · rw [honce.holdsOwn hf hown g hg hname] at hbucket
      cases hbucket
  cases hraw : e.payload[f.name]? with
  | none =>
    cases hfield : d.field? f.name with
    | none => rfl
    | some value =>
      have hvalue := hgiven value hfield
      rw [hraw] at hvalue
      cases hvalue
  | some raw =>
    obtain ⟨value, hconverts⟩ := exists_converts_of_toDocument h hschema hf hown hraw
    obtain ⟨value', hvalue'⟩ := Document.mem_fields_iff.mp (mem_fields_of_converts h hschema hconverts)
    rw [hvalue', ← hraw, hgiven value' hvalue']

end ChangeEvent

/-! ## Buckets -/

namespace Document

variable {d : Document} {f : FieldSpec} {name : String}

/-- A bucket is no number: what numbers a document holds does not depend on its buckets, where no number is
held in their place. -/
theorem numberAt?_withBucket (hf : f.bucketSource? ≠ none → d.numberAt? f.name = none)
    (name : String) : (d.withBucket f).numberAt? name = d.numberAt? name := by
  cases hlabel : d.bucketLabel? f with
  | none => rw [withBucket_of_none hlabel]
  | some label =>
    have hnone : d.numberAt? f.name = none := by
      refine hf fun hown => ?_
      rw [bucketLabel?, hown] at hlabel
      cases hlabel
    rw [withBucket_of_some hlabel, numberAt?, field?, Std.ExtTreeMap.getElem?_insert]
    split
    · rename_i heq
      rw [← Std.compare_eq_iff_eq.mp heq, hnone]
      rfl
    · rfl

theorem numberAt?_foldl_withBucket (fields : List FieldSpec)
    (hfields : ∀ f ∈ fields, f.bucketSource? ≠ none → d.numberAt? f.name = none) (name : String) :
    (fields.foldl withBucket d).numberAt? name = d.numberAt? name := by
  induction fields generalizing d with
  | nil => rfl
  | cons f rest ih =>
    obtain ⟨hf, hrest⟩ := List.forall_mem_cons.mp hfields
    rw [List.foldl_cons, ih, numberAt?_withBucket hf]
    intro g hg hbucket
    rw [numberAt?_withBucket hf, hrest g hg hbucket]

/-- A field that is declared once holds the bucket it gets, or else what it held before. -/
theorem field?_foldl_withBucket_of_mem (fields : List FieldSpec)
    (hnames : (fields.map (·.name)).Nodup)
    (hfields : ∀ f ∈ fields, f.bucketSource? ≠ none → d.numberAt? f.name = none)
    (hf : f ∈ fields) :
    (fields.foldl withBucket d).field? f.name =
      ((d.bucketLabel? f).map .text).or (d.field? f.name) := by
  induction fields generalizing d with
  | nil => cases hf
  | cons g rest ih =>
    obtain ⟨hg, hrest⟩ := List.forall_mem_cons.mp hfields
    rw [List.map_cons, List.nodup_cons, List.mem_map] at hnames
    obtain ⟨hfresh, hnames⟩ := hnames
    rw [List.foldl_cons]
    rcases List.mem_cons.mp hf with rfl | hf
    · -- no other field is declared under its name, so what it gets here stays
      have hothers : ∀ g ∈ rest, g.bucketSource? = none ∨ g.name ≠ f.name :=
        fun g hg => Or.inr fun hname => hfresh ⟨g, hg, hname⟩
      rw [field?_foldl_withBucket hothers]
      cases hlabel : d.bucketLabel? f with
      | none =>
        rw [withBucket_of_none hlabel]
        rfl
      | some label =>
        rw [withBucket_of_some hlabel, field?, Std.ExtTreeMap.getElem?_insert_self]
        rfl
    · -- the bucket of another field leaves what is under its name and all numbers
      have hother : g.name ≠ f.name := fun hname => hfresh ⟨f, hf, hname.symm⟩
      have hrest' : ∀ f ∈ rest, f.bucketSource? ≠ none →
          (d.withBucket g).numberAt? f.name = none := by
        intro f hf hbucket
        rw [numberAt?_withBucket hg, hrest f hf hbucket]
      rw [ih hnames hrest' hf, field?_withBucket (Or.inr hother), bucketLabel?, bucketLabel?]
      simp only [numberAt?_withBucket hg]

/-- Where nothing is held beforehand in place of a bucket, a field that is made of another one and declared
once holds in the end the bucket of the number that the other one holds. -/
theorem field?_foldl_withBucket_of_bucket (fields : List FieldSpec)
    (hnames : (fields.map (·.name)).Nodup)
    (hempty : ∀ f ∈ fields, f.bucketSource? ≠ none → d.field? f.name = none) (hf : f ∈ fields)
    (hbucket : f.bucketSource? ≠ none) :
    (fields.foldl withBucket d).field? f.name =
      ((fields.foldl withBucket d).bucketLabel? f).map .text := by
  have hnumbers : ∀ g ∈ fields, g.bucketSource? ≠ none → d.numberAt? g.name = none := by
    intro g hg hbucket
    rw [numberAt?, hempty g hg hbucket]
    rfl
  have hsame := numberAt?_foldl_withBucket fields hnumbers
  rw [field?_foldl_withBucket_of_mem fields hnames hnumbers hf, hempty f hf hbucket, Option.or_none,
    bucketLabel?, bucketLabel?]
  simp only [hsame]

theorem bucketLabel?_withGuardedPrice (d : Document) (f : FieldSpec) :
    d.withGuardedPrice.bucketLabel? f = d.bucketLabel? f := by
  simp only [bucketLabel?, numberAt?, field?_withGuardedPrice]

end Document

namespace ChangeEvent

variable {schemas : SchemaRegistry} {e : ChangeEvent} {d : Document} {schema : EntitySchema}
  {f : FieldSpec}

/-- Members are put in under the names of fields with values of their own, so that a field that is declared
once, made of another one, is not among them. -/
theorem field?_foldl_withMember_of_bucket {members : List (FieldSpec × FieldValue)}
    (hmembers : schema.convertMembers e.key e.payload = .ok members) (honce : schema.DeclaresOnce)
    (hf : f ∈ schema.fields) (hbucket : f.bucketSource? ≠ none) :
    (members.foldl (fun d member => d.withMember member.1 member.2) (e.bare schema)).field? f.name =
      none := by
  refine Option.eq_none_iff_forall_ne_some.mpr fun value hvalue => ?_
  obtain ⟨member, hmember, hname, _⟩ := exists_mem_of_field?_members hvalue
  obtain ⟨hdeclared, hown, _⟩ := EntitySchema.converted_of_mem hmembers hmember
  rw [honce.eq_of_name hdeclared hf hname] at hown
  exact hbucket hown

/-- A field that is declared once, made of another one, holds the bucket of the number that the other one
holds. -/
theorem field?_toDocument_of_bucket (h : e.toDocument schemas = .ok d)
    (hschema : schemas.schema? e.entityType = some schema) (honce : schema.DeclaresOnce)
    (hf : f ∈ schema.fields) (hbucket : f.bucketSource? ≠ none) :
    d.field? f.name = (d.bucketLabel? f).map .text := by
  obtain ⟨members, hmembers, rfl⟩ := built_of_schema h hschema
  rw [Document.field?_withGuardedPrice, Document.bucketLabel?_withGuardedPrice]
  exact Document.field?_foldl_withBucket_of_bucket schema.fields honce
    (fun g hg hbucket => field?_foldl_withMember_of_bucket hmembers honce hg hbucket) hf hbucket

end ChangeEvent

end CatalogSearch

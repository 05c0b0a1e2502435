import CatalogSearch.Proofs.Feed.Keywords

/-!
# Documents of changes are well-formed

Whatever a record holds, the document made of it is valid and of the record and version of the change, its
fields are those that the schema declares and the record has, and its marks are those of its fields.
-/

set_option autoImplicit false

namespace CatalogSearch

open CatalogSearch.Text CatalogSearch.Time

/-- A field that is made of another one is counted. -/
theorem FieldSpec.isFacet_of_bucketSource? {f : FieldSpec} (h : f.bucketSource? ≠ none) :
    f.isFacet = true := by
  unfold bucketSource? at h
  split at h
  · rename_i hfacet
    rw [isFacet, hfacet]
    rfl
  · exact absurd rfl h

namespace Document

variable {d d' : Document} {schema : EntitySchema} {f : FieldSpec} {name : String}

/-! ## Facets -/

/-- The facets of a document are those of its fields that are declared as facets. -/
def CountsDeclared (d : Document) (schema : EntitySchema) : Prop :=
  ∀ name, name ∈ d.facetFields ↔
    name ∈ d.fields ∧ ∃ f ∈ schema.fields, f.name = name ∧ f.isFacet = true

/-- A field that is put in, and marked as a facet where it is declared one, leaves it so. -/
theorem CountsDeclared.put (h : d.CountsDeclared schema) (honce : schema.DeclaresOnce)
    (hf : f ∈ schema.fields)
    (hfields : ∀ name, name ∈ d'.fields ↔ name ∈ d.fields ∨ f.name = name)
    (hfacets : ∀ name, name ∈ d'.facetFields ↔
      name ∈ d.facetFields ∨ f.isFacet = true ∧ f.name = name) : d'.CountsDeclared schema := by
  intro name
  rw [hfields, hfacets, h name]
  by_cases hname : f.name = name
  · subst hname
    have honly : (∃ g ∈ schema.fields, g.name = f.name ∧ g.isFacet = true) ↔ f.isFacet = true := by
      constructor
      · rintro ⟨g, hg, hsame, hfacet⟩
        exact honce.eq_of_name hg hf hsame ▸ hfacet
      · exact fun hfacet => ⟨f, hf, rfl, hfacet⟩
    simp only [honly, and_true, or_true, true_and, or_iff_right_iff_imp, and_imp]
    exact fun _ hfacet => hfacet
  · simp only [hname, and_false, or_false]

theorem mem_facetFields_withMember {value : FieldValue} :
    name ∈ (d.withMember f value).facetFields ↔
      name ∈ d.facetFields ∨ f.isFacet = true ∧ f.name = name := by
  unfold withMember
  cases f.isFacet with
  | true => simp [Std.ExtTreeSet.mem_insert, or_comm]
  | false => simp

theorem CountsDeclared.withBucket (h : d.CountsDeclared schema) (honce : schema.DeclaresOnce)
    (hf : f ∈ schema.fields) : (d.withBucket f).CountsDeclared schema := by
  cases hlabel : d.bucketLabel? f with
  | none =>
    rw [withBucket_of_none hlabel]
    exact h
  | some label =>
    obtain ⟨source, bounds, hbucket, _⟩ := exists_of_bucketLabel? hlabel
    have hfacet : f.isFacet = true :=
      FieldSpec.isFacet_of_bucketSource? (by rw [hbucket]; exact Option.some_ne_none _)
    refine h.put honce hf (fun name => ?_) (fun name => ?_)
    · rw [mem_fields_withBucket, hlabel]
      simp
    · rw [withBucket_of_some hlabel, Std.ExtTreeSet.mem_insert, Std.compare_eq_iff_eq, or_comm]
      simp [hfacet]

theorem facetFields_withGuardedPrice (d : Document) :
    d.withGuardedPrice.facetFields = d.facetFields := by
  rw [withGuardedPrice_eq]

/-! ## Confidential fields -/

/-- What is marked as confidential is there. -/
def KeepsPresent (d : Document) : Prop := ∀ name ∈ d.sensitiveFields, name ∈ d.fields

theorem KeepsPresent.withMember (h : d.KeepsPresent) (f : FieldSpec) (value : FieldValue) :
    (d.withMember f value).KeepsPresent := by
  intro name hmarked
  rw [mem_sensitiveFields_withMember] at hmarked
  rw [mem_fields_withMember]
  exact hmarked.imp (h name) And.right

theorem KeepsPresent.withBucket (h : d.KeepsPresent) (f : FieldSpec) :
    (d.withBucket f).KeepsPresent := by
  intro name hmarked
  rw [sensitiveFields_withBucket] at hmarked
  exact mem_fields_withBucket.mpr (Or.inl (h name hmarked))

theorem KeepsPresent.withGuardedPrice (h : d.KeepsPresent) : d.withGuardedPrice.KeepsPresent := by
  intro name hmarked
  rw [fields_withGuardedPrice]
  rcases mem_sensitiveFields_withGuardedPrice.mp hmarked with hmarked | ⟨_, _, hmem⟩
  · exact h name hmarked
  · exact hmem

end Document

namespace ChangeEvent

variable {schemas : SchemaRegistry} {e : ChangeEvent} {d : Document} {schema : EntitySchema}

/-! ## The whole -/

theorem countsDeclared_toDocument (h : e.toDocument schemas = .ok d)
    (hschema : schemas.schema? e.entityType = some schema) (honce : schema.DeclaresOnce) :
    d.CountsDeclared schema := by
  refine holds_of_toDocument (P := fun d => d.CountsDeclared schema) h hschema ?bare ?member ?bucket
    ?guarded
  case bare =>
    intro name
    refine iff_of_false Std.ExtTreeSet.not_mem_empty fun hfield => ?_
    exact Std.ExtTreeMap.not_mem_empty hfield.1
  case member =>
    exact fun f value hconverts d hd => hd.put honce hconverts.declared
      (fun _ => Document.mem_fields_withMember) (fun _ => Document.mem_facetFields_withMember)
  case bucket => exact fun f hf d hd => hd.withBucket honce hf
  case guarded =>
    intro d hd name
    rw [Document.facetFields_withGuardedPrice, Document.fields_withGuardedPrice]
    exact hd name

theorem keepsPresent_toDocument (h : e.toDocument schemas = .ok d)
    (hschema : schemas.schema? e.entityType = some schema) : d.KeepsPresent :=
  holds_of_toDocument h hschema (fun _ hmarked => absurd hmarked Std.ExtTreeSet.not_mem_empty)
    (fun f value _ _ hd => hd.withMember f value) (fun f _ _ hd => hd.withBucket f)
    (fun _ hd => hd.withGuardedPrice)

theorem isValid_toDocument (h : e.toDocument schemas = .ok d)
    (hschema : schemas.schema? e.entityType = some schema) (honce : schema.DeclaresOnce) :
    d.isValid = true := by
  have hid : d.id = trim e.id := congrArg DocumentKey.id (identity_toDocument h).1
  refine Document.isValid_iff.mpr ⟨?_, fun name hfacet => ?_, keepsPresent_toDocument h hschema⟩
  · rw [hid]
    exact isBlankText_trim (built_of_toDocument h).1
  · exact ((countsDeclared_toDocument h hschema honce name).mp hfacet).1

end ChangeEvent

/-- A document holds what a schema declares of what a record has. -/
structure EntitySchema.Describes (schema : EntitySchema) (p : Payload) (d : Document) : Prop where
  /-- Every field is declared. -/
  declared : ∀ name ∈ d.fields, ∃ f ∈ schema.fields, f.name = name
  /-- A field with a value of its own is there when the record has the member. -/
  present : ∀ f ∈ schema.fields, f.bucketSource? = none → (f.name ∈ d.fields ↔ f.name ∈ p)
  /-- A member that is null is kept as a null. -/
  null : ∀ f ∈ schema.fields, f.bucketSource? = none → p[f.name]? = some .null →
    d.field? f.name = some .null
  /-- Any other member is of the kind declared. -/
  typed : ∀ f ∈ schema.fields, f.bucketSource? = none → p[f.name]? ≠ some .null →
    ∀ value, d.field? f.name = some value → f.kind.Holds value
  /-- A field that is made of another one holds the bucket of the number that the other one holds, and is
  not there when there is none; what the record says under its name is of no meaning. -/
  bucket : ∀ f ∈ schema.fields, ∀ source bounds, f.facet = some (.buckets source bounds) →
    d.field? f.name =
      (((d.field? source).bind FieldValue.number?).bind (bucketFor? bounds)).map .text
  /-- A bucket is of the domain that is counted. -/
  admitted : ∀ f ∈ schema.fields, ∀ source bounds, f.facet = some (.buckets source bounds) →
    ∀ label, d.field? f.name = some (.text label) →
      (FacetDomain.buckets source bounds).admits label = true
  /-- The facets are the fields that are declared as facets. -/
  facets : ∀ name, name ∈ d.facetFields ↔
    name ∈ d.fields ∧ ∃ f ∈ schema.fields, f.name = name ∧ f.isFacet = true
  /-- The keywords are the tokens of the texts of searchable fields with values of their own. -/
  keywords : ∀ k, k ∈ d.keywords ↔ ∃ f ∈ schema.fields, f.bucketSource? = none ∧
    f.searchable = true ∧ ∃ s, d.field? f.name = some (.text s) ∧ k ∈ tokens s

namespace ChangeEvent

variable {schemas : SchemaRegistry} {e : ChangeEvent} {d : Document} {schema : EntitySchema}

theorem describes_toDocument (h : e.toDocument schemas = .ok d)
    (hschema : schemas.schema? e.entityType = some schema) (honce : schema.DeclaresOnce) :
    schema.Describes e.payload d where
  declared name hmem := by
    obtain ⟨value, hvalue⟩ := Document.mem_fields_iff.mp hmem
    obtain ⟨f, hf, hname, _⟩ := gives_of_schema h hschema hvalue
    exact ⟨f, hf, hname⟩
  present f hf hown := by
    refine ⟨mem_payload_of_own h hschema (honce.holdsOwn hf hown), fun hmem => ?_⟩
    obtain ⟨raw, hraw⟩ := Payload.mem_iff.mp hmem
    obtain ⟨value, hconverts⟩ := exists_converts_of_toDocument h hschema hf hown hraw
    exact mem_fields_of_converts h hschema hconverts
  null f hf hown hnull := by
    rw [field?_toDocument_of_own h hschema honce hf hown, hnull, Option.bind_some,
      FieldKind.convert?_null]
  typed f hf hown hnull value hvalue := by
    rw [field?_toDocument_of_own h hschema honce hf hown] at hvalue
    obtain ⟨raw, hraw, hconverted⟩ := Option.bind_eq_some_iff.mp hvalue
    refine FieldKind.holds_of_convert? ?_ hconverted
    rintro rfl
    exact hnull hraw
  bucket f hf source bounds hfacet := by
    have hbucket : f.bucketSource? = some (source, bounds) := by
      rw [FieldSpec.bucketSource?, hfacet]
    rw [field?_toDocument_of_bucket h hschema honce hf (by rw [hbucket]; exact Option.some_ne_none _),
      Document.bucketLabel?, hbucket, Option.bind_some, Document.numberAt?]
  admitted f hf source bounds hfacet label hlabel := by
    have hbucket : f.bucketSource? = some (source, bounds) := by
      rw [FieldSpec.bucketSource?, hfacet]
    rw [field?_toDocument_of_bucket h hschema honce hf (by rw [hbucket]; exact Option.some_ne_none _)]
      at hlabel
    obtain ⟨label', hgiven, hsame⟩ := Option.map_eq_some_iff.mp hlabel
    cases hsame
    obtain ⟨source', bounds', hbucket', hmem⟩ := Document.exists_of_bucketLabel? hgiven
    rw [hbucket] at hbucket'
    cases hbucket'
    exact List.any_eq_true.mpr ⟨label, hmem, beq_self_eq_true label⟩
  facets := countsDeclared_toDocument h hschema honce
  keywords := mem_keywords_toDocument h hschema honce

/-- Where every schema declares every field once, the document made of a changed record is valid, of the
record and the version of the change, and holds what the schema of its type declares of what the record
has. -/
theorem document_as_declared (honce : schemas.DeclareOnce) (h : e.toDocument schemas = .ok d) :
    d.isValid = true ∧ d.key = e.key ∧ d.updatedAt = e.updatedAt ∧
      ∃ schema, schemas.schema? e.entityType = some schema ∧ schema.Describes e.payload d := by
  obtain ⟨schema, hschema⟩ := exists_schema_of_toDocument h
  obtain ⟨hkey, hversion⟩ := identity_toDocument h
  have honce := honce e.entityType schema hschema
  exact ⟨isValid_toDocument h hschema honce, hkey, hversion, schema, hschema,
    describes_toDocument h hschema honce⟩

/-- A part with a price in a text and a price bucket of its own is put into the bucket of the price, and the
stock it does not know is kept as a null. -/
theorem document_as_declared_of_part :
    let e : ChangeEvent := .write .part none " p1 "
      (.object [("name", .string " Pump "), ("price", .string " 120 "),
        ("price_bucket", .string "cheap"), ("stock", .null)]) ⟨1, 0⟩
    ∃ d, e.toDocument .standard = .ok d ∧ d.isValid = true ∧ d.key = .resolve none .part "p1" ∧
      d.field? priceBucketField = some (.text "100-500") ∧ d.field? "stock" = some .null ∧
      priceBucketField ∈ d.facetFields := by
  intro e
  obtain ⟨d, hd, hread⟩ : ∃ d, e.toDocument .standard = .ok d ∧
      ((d.field? priceField).bind FieldValue.number?).bind (bucketFor? SchemaRegistry.priceBounds) =
        some "100-500" := exists_of_toOption_map (by decide)
  have hnull : e.payload["stock"]? = some .null := by
    simp [e, write, payloadOf, Json.members?]
  obtain ⟨hvalid, hkey, _, schema, hschema, hdescribes⟩ :=
    document_as_declared SchemaRegistry.declareOnce_standard hd
  cases hschema
  have hbucket := hdescribes.bucket ((FieldSpec.keyword priceBucketField).asFacet
    (.buckets priceField SchemaRegistry.priceBounds))
    (by simp [SchemaRegistry.partSchema, SchemaRegistry.pricing]) priceField
    SchemaRegistry.priceBounds rfl
  have hlabel : d.field? priceBucketField = some (.text "100-500") := by
    rw [hread] at hbucket
    exact hbucket
  have hstock := hdescribes.null (FieldSpec.number "stock").asSensitive
    (by simp [SchemaRegistry.partSchema]) rfl hnull
  have hfacet := (hdescribes.facets priceBucketField).mpr ⟨Document.mem_fields_iff.mpr ⟨_, hlabel⟩,
    (FieldSpec.keyword priceBucketField).asFacet (.buckets priceField SchemaRegistry.priceBounds),
    by simp [SchemaRegistry.partSchema, SchemaRegistry.pricing], rfl, rfl⟩
  exact ⟨d, hd, hvalid, hkey.trans (by decide), hlabel, hstock, hfacet⟩

end ChangeEvent

end CatalogSearch

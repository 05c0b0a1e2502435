import CatalogSearch.Catalog.StandardSchemas

/-!
# What schemas declare

A field is declared by the schema of a type.  Whether some type declares a name, keeps it confidential or
counts it as a facet is read off the declared fields.
-/

set_option autoImplicit false

namespace CatalogSearch

namespace EntitySchema

variable {schema : EntitySchema} {name : String}

theorem declares_iff : schema.declares name = true ↔ ∃ f ∈ schema.fields, f.name = name := by
  rw [declares, field?, List.find?_isSome]
  simp only [beq_iff_eq]

theorem exists_of_isSensitive (h : schema.isSensitive name = true) :
    ∃ f ∈ schema.fields, f.name = name ∧ f.sensitive = true := by
  unfold isSensitive field? at h
  cases hfound : schema.fields.find? (fun f => f.name == name) with
  | none =>
    rw [hfound] at h
    cases h
  | some f =>
    have hname := List.find?_some hfound
    rw [hfound] at h
    exact ⟨f, List.mem_of_find?_eq_some hfound, beq_iff_eq.mp hname, h⟩

/-- The domain over which the first facet of a name is counted. -/
def facetDomain? (s : EntitySchema) (name : String) : Option FacetDomain :=
  s.fields.findSome? fun f => if f.name = name then f.facet else none

/-- Of the facets of a schema, with their names, the first of a name is found. -/
theorem find?_facets (s : EntitySchema) (name : String) :
    (s.fields.filterMap fun f => f.facet.map fun d => (f.name, d)).find? (fun k => k.1 == name) =
      (s.facetDomain? name).map fun d => (name, d) := by
  unfold facetDomain?
  induction s.fields with
  | nil => rfl
  | cons f rest ih =>
    cases hfacet : f.facet with
    | none =>
      simpa only [List.filterMap_cons, List.findSome?_cons, hfacet, Option.map_none, ite_self] using ih
    | some d =>
      by_cases hname : f.name = name
      · simp only [List.filterMap_cons, List.findSome?_cons, hfacet, Option.map_some, hname, if_true,
          List.find?_cons, beq_self_eq_true]
      · simpa only [List.filterMap_cons, List.findSome?_cons, hfacet, Option.map_some, hname, if_false,
          List.find?_cons, beq_eq_false_iff_ne.mpr hname] using ih

end EntitySchema

namespace SchemaRegistry

variable {r : SchemaRegistry} {types : List EntityType} {t : EntityType} {field : String}

/-- The schema of a type declares a field. -/
def Declares (r : SchemaRegistry) (t : EntityType) (f : FieldSpec) : Prop :=
  ∃ schema, r.schema? t = some schema ∧ f ∈ schema.fields

theorem declaresAny_iff :
    r.declaresAny types field = true ↔ ∃ t ∈ types, ∃ f, r.Declares t f ∧ f.name = field := by
  rw [declaresAny, List.any_eq_true]
  simp only [List.mem_filterMap, EntitySchema.declares_iff]
  constructor
  · rintro ⟨schema, ⟨t, ht, hschema⟩, f, hf, hname⟩
    exact ⟨t, ht, f, ⟨schema, hschema, hf⟩, hname⟩
  · rintro ⟨t, ht, f, ⟨schema, hschema, hf⟩, hname⟩
    exact ⟨schema, ⟨t, ht, hschema⟩, f, hf, hname⟩

theorem exists_of_isSensitive (h : r.isSensitive t field = true) :
    ∃ f, r.Declares t f ∧ f.name = field ∧ f.sensitive = true := by
  unfold isSensitive at h
  cases hschema : r.schema? t with
  | none =>
    rw [hschema] at h
    cases h
  | some schema =>
    rw [hschema] at h
    obtain ⟨f, hf, hname, hsensitive⟩ := EntitySchema.exists_of_isSensitive h
    exact ⟨f, ⟨schema, hschema, hf⟩, hname, hsensitive⟩

/-- Only what is declared is counted. -/
theorem exists_of_mem_facets {domain : FacetDomain} (h : (field, domain) ∈ r.facets types) :
    ∃ t ∈ types, ∃ f, r.Declares t f ∧ f.name = field ∧ f.facet = some domain := by
  -- of the declarations of one name the first is kept: nothing is kept that was not declared
  have hkept : ∀ (declared kept : List (String × FacetDomain)) facet,
      facet ∈ declared.foldl
        (fun kept facet => if kept.any (fun k => k.1 == facet.1) then kept else kept ++ [facet])
        kept → facet ∈ kept ∨ facet ∈ declared := by
    intro declared
    induction declared with
    | nil => exact fun kept facet h => Or.inl h
    | cons first rest ih =>
      intro kept facet h
      rw [List.foldl_cons] at h
      rcases ih _ facet h with hfacet | hrest
      · split at hfacet
        · exact Or.inl hfacet
        · rcases List.mem_append.mp hfacet with hkept | hfirst
          · exact Or.inl hkept
          · exact Or.inr (List.mem_singleton.mp hfirst ▸ List.mem_cons_self)
      · exact Or.inr (List.mem_cons_of_mem _ hrest)
  have hdeclared := (hkept _ [] _ h).resolve_left List.not_mem_nil
  obtain ⟨schema, hschema, hfacet⟩ := List.mem_flatMap.mp hdeclared
  obtain ⟨t, ht, hschema⟩ := List.mem_filterMap.mp hschema
  obtain ⟨f, hf, hdomain⟩ := List.mem_filterMap.mp hfacet
  obtain ⟨domain', hfacet, heq⟩ := Option.map_eq_some_iff.mp hdomain
  cases heq
  exact ⟨t, ht, f, ⟨schema, hschema, hf⟩, rfl, hfacet⟩

/-- The domain over which a name is counted: that of the first of the types whose schema has a facet of
the name. -/
def facetDomain? (r : SchemaRegistry) (types : List EntityType) (name : String) :
    Option FacetDomain :=
  (types.filterMap r.schema?).findSome? fun s => s.facetDomain? name

/-- Of those kept already and those declared after them, the first facet of a name is kept. -/
theorem find?_keptFirst (declared kept : List (String × FacetDomain)) (name : String) :
    (declared.foldl
      (fun kept facet => if kept.any (fun k => k.1 == facet.1) then kept else kept ++ [facet])
      kept).find? (fun k => k.1 == name) =
    (kept.find? fun k => k.1 == name).or (declared.find? fun k => k.1 == name) := by
  induction declared generalizing kept with
  | nil => rw [List.foldl_nil, List.find?_nil, Option.or_none]
  | cons first rest ih =>
    rw [List.foldl_cons, ih]
    cases hknown : kept.any fun k => k.1 == first.1 with
    | false =>
      rw [if_neg Bool.false_ne_true, List.find?_append, Option.or_assoc, ← List.find?_append,
        List.singleton_append]
    | true =>
      rw [if_pos rfl]
      by_cases hname : first.1 = name
      · subst hname
        have hfound := List.find?_isSome.mpr (List.any_eq_true.mp hknown)
        obtain ⟨k, hk⟩ := Option.isSome_iff_exists.mp hfound
        rw [hk, Option.some_or, Option.some_or]
      · rw [List.find?_cons_of_neg (by simpa using hname)]

theorem find?_facets (r : SchemaRegistry) (types : List EntityType) (name : String) :
    (r.facets types).find? (fun k => k.1 == name) =
      (r.facetDomain? types name).map fun d => (name, d) := by
  rw [facets, find?_keptFirst, List.find?_nil, Option.none_or, List.find?_flatMap, facetDomain?,
    List.map_findSome?]
  refine congrArg (List.findSome? · _) (funext fun s => ?_)
  exact s.find?_facets name

/-- What one of the types declares a facet is counted over some domain. -/
theorem exists_facetDomain {f : FieldSpec} (ht : t ∈ types) (hf : r.Declares t f)
    (hfacet : f.isFacet = true) : ∃ domain, r.facetDomain? types f.name = some domain := by
  obtain ⟨schema, hschema, hf⟩ := hf
  rw [← Option.isSome_iff_exists, facetDomain?, List.findSome?_isSome_iff]
  refine ⟨schema, List.mem_filterMap.mpr ⟨t, ht, hschema⟩, ?_⟩
  rw [EntitySchema.facetDomain?, List.findSome?_isSome_iff]
  exact ⟨f, hf, by rwa [if_pos rfl]⟩

/-! ## The schemas of a marketplace catalog -/

/-- What is counted under a name is, wherever the name is declared, a keyword and not confidential. -/
def FacetsAreKeywords (r : SchemaRegistry) : Prop :=
  ∀ t t' f f', r.Declares t f → f.isFacet = true → r.Declares t' f' → f'.name = f.name →
    f'.kind = .keyword ∧ f'.sensitive = false

/-- No type keeps confidential what is counted. -/
theorem FacetsAreKeywords.isSensitive_eq_false (h : r.FacetsAreKeywords) {f : FieldSpec}
    (hf : r.Declares t f) (hfacet : f.isFacet = true) (t' : EntityType) :
    r.isSensitive t' f.name = false := by
  cases hsensitive : r.isSensitive t' f.name with
  | false => rfl
  | true =>
    obtain ⟨f', hf', hname, htrue⟩ := exists_of_isSensitive hsensitive
    rw [(h t t' f f' hf hfacet hf' hname).2] at htrue
    cases htrue

theorem exists_of_declares_standard {t : EntityType} {f : FieldSpec} (h : standard.Declares t f) :
    ∃ schema ∈ [partSchema, equipmentSchema, companySchema, listingSchema, serviceSchema],
      f ∈ schema.fields := by
  obtain ⟨schema, hschema, hf⟩ := h
  cases t with
  | part => exact ⟨partSchema, by simp, Option.some.inj hschema ▸ hf⟩
  | equipment => exact ⟨equipmentSchema, by simp, Option.some.inj hschema ▸ hf⟩
  | company => exact ⟨companySchema, by simp, Option.some.inj hschema ▸ hf⟩
  | listing => exact ⟨listingSchema, by simp, Option.some.inj hschema ▸ hf⟩
  | service => exact ⟨serviceSchema, by simp, Option.some.inj hschema ▸ hf⟩

theorem facetsAreKeywords_standard : standard.FacetsAreKeywords := by
  have hall : ∀ schema ∈ [partSchema, equipmentSchema, companySchema, listingSchema, serviceSchema],
      ∀ f ∈ schema.fields, f.isFacet = true →
      ∀ schema' ∈ [partSchema, equipmentSchema, companySchema, listingSchema, serviceSchema],
        ∀ f' ∈ schema'.fields, f'.name = f.name → f'.kind = .keyword ∧ f'.sensitive = false := by
    decide
  intro t t' f f' hf hfacet hf' hname
  obtain ⟨schema, hschema, hf⟩ := exists_of_declares_standard hf
  obtain ⟨schema', hschema', hf'⟩ := exists_of_declares_standard hf'
  exact hall schema hschema f hf hfacet schema' hschema' f' hf' hname

end SchemaRegistry

end CatalogSearch

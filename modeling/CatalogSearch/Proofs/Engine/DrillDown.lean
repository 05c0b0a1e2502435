import CatalogSearch.Proofs.Access.Alike
import CatalogSearch.Proofs.Catalog.Schema
import CatalogSearch.Proofs.Engine.Origin
import CatalogSearch.Proofs.Engine.Search
import CatalogSearch.Proofs.Feed.Fields
import CatalogSearch.Proofs.Query.Facets

/-!
# Facets predict narrower searches

A bucket of an answer promises what the same request finds once it is narrowed to the bucket's value.
The promise is kept where the live documents are those of changes of records: a field that a document
holds is then declared by its type, so that a filter it meets is allowed for the type alone, and what a
facet counts is a trimmed text, so that a filter on it is met.
-/

set_option autoImplicit false

namespace CatalogSearch

open CatalogSearch.Text

/-! ## Values that are counted -/

/-- The schema of a document's type gives it its fields. -/
def Document.DescribedBy (d : Document) (schemas : SchemaRegistry) : Prop :=
  ∃ schema payload, schemas.schema? d.entityType = some schema ∧
    ∀ name value, d.field? name = some value → schema.Gives payload name value

namespace Document.DescribedBy

variable {d : Document} {schemas : SchemaRegistry} {name : String} {value : FieldValue}

/-- What a document holds its type declares. -/
theorem declares (h : d.DescribedBy schemas) (hvalue : d.field? name = some value) :
    schemas.declaresAny [d.entityType] name = true := by
  obtain ⟨schema, payload, hschema, hgives⟩ := h
  obtain ⟨f, hf, hname, _⟩ := hgives name value hvalue
  exact SchemaRegistry.declaresAny_iff.mpr
    ⟨d.entityType, List.mem_singleton.mpr rfl, f, ⟨schema, hschema, hf⟩, hname⟩

/-- What a field of keywords holds is null or a trimmed text. -/
theorem trimmed_of_keyword (h : d.DescribedBy schemas)
    (hkeyword : ∀ f, schemas.Declares d.entityType f → f.name = name → f.kind = .keyword)
    (hvalue : d.field? name = some value) : value = .null ∨ ∃ s, value = .text s ∧ trim s = s := by
  obtain ⟨schema, payload, hschema, hgives⟩ := h
  have htrimmed : ∀ s, value = .text s → trim s = s := by
    rintro s rfl
    exact (hgives name _ hvalue).trim
  obtain ⟨f, hf, hname, ⟨_, raw, _, hconverted⟩ | ⟨_, _, label, _, _, hlabel⟩⟩ :=
    hgives name value hvalue
  · rw [hkeyword f ⟨schema, hschema, hf⟩ hname] at hconverted
    rcases FieldKind.text_of_convert?_keyword hconverted with hnull | ⟨s, hs⟩
    · exact Or.inl hnull
    · exact Or.inr ⟨s, hs, htrimmed s hs⟩
  · exact Or.inr ⟨label, hlabel, htrimmed label hlabel⟩

end Document.DescribedBy

/-- What a facet of a name counts is a value that is seen, and its text. -/
theorem Facets.exists_of_value? {schemas : SchemaRegistry} {view : AccessView} {name v : String}
    {d : Document} (h : value? schemas view name d = some v) :
    ∃ value, view.visibleValue? d name = some value ∧ value.facetValue? = some v := by
  unfold value? at h
  split at h
  · exact Option.bind_eq_some_iff.mp h
  · cases h

/-- A trimmed text is what a filter on its facet value asks for. -/
theorem FieldValue.matchesFilter_facetValue {value : FieldValue} {v : String}
    (htrimmed : value = .null ∨ ∃ s, value = .text s ∧ trim s = s)
    (hcounted : value.facetValue? = some v) : value.matchesFilter v = true := by
  obtain rfl | ⟨s, rfl, htrim⟩ := htrimmed
  · cases hcounted
  · have hcounted : (if s.isEmpty then none else some s) = some v := hcounted
    split at hcounted
    · cases hcounted
    · cases hcounted
      rw [matchesFilter, htrim, equalIgnoringAsciiCase, beq_self_eq_true]

/-! ## Narrower plans -/

namespace Store

variable {s : Store}

/-- A plan of one of the planned types finds the matches of the type. -/
theorem Consistent.length_matched_of_type (hs : s.Consistent) (plan : QueryPlan) {t : EntityType}
    (ht : t ∈ plan.types) :
    (s.matched { plan with types := [t] }).length =
      (s.matched plan).countP (·.entityType.name == t.name) := by
  have hperm : (s.matched { plan with types := [t] }).Perm
      ((s.matched plan).filter (·.entityType.name == t.name)) := by
    refine (List.perm_ext_iff_of_nodup (hs.nodup_matched _) ((hs.nodup_matched _).filter _)).mpr ?_
    intro d
    rw [List.mem_filter, hs.mem_matched, hs.mem_matched, List.contains_iff_mem,
      List.contains_iff_mem, List.mem_singleton, beq_iff_eq]
    constructor
    · rintro ⟨⟨hlive, rfl, hscope⟩, hmatches⟩
      exact ⟨⟨⟨hlive, ht, hscope⟩, hmatches⟩, rfl⟩
    · rintro ⟨⟨⟨hlive, _, hscope⟩, hmatches⟩, hname⟩
      exact ⟨⟨hlive, EntityType.name_inj hname, hscope⟩, hmatches⟩
  rw [hperm.length_eq, List.countP_eq_length_filter]

/-- A match that also meets one more filter is found by the plan with this filter. -/
theorem Consistent.mem_matched_of_filter (hs : s.Consistent) {plan : QueryPlan}
    {filters : Std.ExtTreeMap String String} (hfilters : plan.filters = filters.toList)
    {d : Document} {field v : String} {value : FieldValue} (hd : d ∈ s.matched plan)
    (hvalue : plan.view.visibleValue? d field = some value) (hmet : value.matchesFilter v = true) :
    d ∈ s.matched { plan with filters := (filters.insert field v).toList } := by
  obtain ⟨hfound, htokens, hmatches⟩ := hs.mem_matched.mp hd
  refine hs.mem_matched.mpr ⟨hfound, htokens, QueryPlan.matchesFilters_iff.mpr ?_⟩
  rw [QueryPlan.matchesFilters_iff, hfilters] at hmatches
  rintro ⟨name, wanted⟩ hfilter
  rcases OrderedMap.mem_of_mem_toList_insert hfilter with heq | hfilter
  · cases heq
    exact ⟨value, hvalue, hmet⟩
  · exact hmatches _ hfilter

end Store

namespace Engine

/-- After calls that give no document otherwise than by a change, a live document is described. -/
theorem described_of_live (settings : SearchSettings) (schemas : SchemaRegistry)
    (policy : AccessPolicy) {calls : List EngineCall}
    (hcalls : ∀ call ∈ calls, call.givesDocument = false) {key : DocumentKey} {d : Document}
    (hlive : ((start settings schemas policy).run calls).store.live? key = some d) :
    d.DescribedBy schemas := by
  obtain ⟨e, _, hd⟩ := exists_change_of_live settings schemas policy hcalls hlive
  obtain ⟨schema, hschema, hgives⟩ := ChangeEvent.gives_of_toDocument hd
  exact ⟨schema, e.payload, hschema, hgives⟩

variable {g : Engine} {r : SearchRequest} {caller : Caller} {plan : QueryPlan}

theorem filters_of_plan (hplan : g.plan r caller = .ok plan) : plan.filters = r.filters.toList := by
  obtain ⟨_, hmade, rfl⟩ := plan_eq_ok_iff.mp hplan
  obtain ⟨_, _, _, _, _, _, rfl⟩ := QueryPlan.make_eq_ok_iff.mp hmade
  rfl

/-- A request that is understood is understood of one of its types that declares its filters. -/
theorem plan_of_type (hplan : g.plan r caller = .ok plan) {t : EntityType} (ht : t ∈ plan.types)
    (hdeclared : ∀ filter ∈ plan.filters, g.schemas.declaresAny [t] filter.1 = true) :
    g.plan { r with entityType := some t.name } caller = .ok { plan with types := [t] } := by
  rw [filters_of_plan hplan] at hdeclared
  obtain ⟨made, hmade, rfl⟩ := plan_eq_ok_iff.mp hplan
  obtain ⟨htokens, types, sort, _, hsort, hfilters, rfl⟩ := QueryPlan.make_eq_ok_iff.mp hmade
  have hparsed : EntityType.parseFilter (some t.name) = .ok [t] := by
    cases t <;> rfl
  refine plan_eq_ok_iff.mpr ⟨_, QueryPlan.make_eq_ok_iff.mpr
    ⟨htokens, [t], sort, hparsed, hsort, fun filter hfilter => ?_, rfl⟩, rfl⟩
  refine QueryPlan.checkFilter_eq_ok_iff.mpr ⟨hdeclared filter hfilter, ?_⟩
  intro t' ht'
  rw [List.mem_singleton.mp ht']
  exact (QueryPlan.checkFilter_eq_ok_iff.mp (hfilters filter hfilter)).2 t ht

/-- A request that is understood is understood with one more filter on a field that is declared and not
confidential. -/
theorem plan_of_filter (hplan : g.plan r caller = .ok plan) {field : String}
    (hdeclared : g.schemas.declaresAny plan.types field = true)
    (hopen : ∀ t ∈ plan.types, g.schemas.isSensitive t field = false) (v : String) :
    g.plan { r with filters := r.filters.insert field v } caller =
      .ok { plan with filters := (r.filters.insert field v).toList } := by
  obtain ⟨made, hmade, rfl⟩ := plan_eq_ok_iff.mp hplan
  obtain ⟨htokens, types, sort, htypes, hsort, hfilters, rfl⟩ := QueryPlan.make_eq_ok_iff.mp hmade
  refine plan_eq_ok_iff.mpr ⟨_, QueryPlan.make_eq_ok_iff.mpr
    ⟨htokens, types, sort, htypes, hsort, fun filter hfilter => ?_, rfl⟩, rfl⟩
  refine QueryPlan.checkFilter_eq_ok_iff.mpr ?_
  rcases OrderedMap.mem_of_mem_toList_insert hfilter with rfl | hfilter
  · refine ⟨hdeclared, fun t ht hsensitive => ?_⟩
    rw [hopen t ht] at hsensitive
    cases hsensitive
  · exact QueryPlan.checkFilter_eq_ok_iff.mp (hfilters filter hfilter)

/-! ## Narrower searches -/

/-- The facets of an answer count what was found: first the types, then the fields that the planned types
declare as facets. -/
theorem facets_answer (g : Engine) (plan : QueryPlan) (found : CandidateSet) :
    ∃ types rest, (g.answer plan found).1.facets = types :: rest ∧ types.field = "type" ∧
      (∀ v c, (v, c) ∈ types.buckets →
        c = (found.candidates.map (·.document)).countP (·.entityType.name == v) ∧ 0 < c) ∧
      ∀ facet ∈ rest, ∃ domain, (facet.field, domain) ∈ g.schemas.facets plan.types ∧
        ∀ v c, (v, c) ∈ facet.buckets →
          c = (found.candidates.map (·.document)).countP
            (Facets.value? g.schemas plan.view facet.field · == some v) := by
  have hcount : ∀ {field domain} (value? : Document → Option String) {v c}, (v, c) ∈
      (FacetResult.tally field domain (((Ranking.rank g.settings.weights found plan).map
        (·.document)).map value?)).buckets →
      c = (found.candidates.map (·.document)).countP (value? · == some v) ∧ 0 < c := by
    intro field domain value? v c hbucket
    obtain ⟨hc, hpositive⟩ := FacetResult.count_of_mem_buckets hbucket
    rw [((Ranking.rank_perm _ _ _).map value?).count_eq, List.count, List.countP_map] at hc
    exact ⟨hc, hpositive⟩
  refine ⟨_, _, rfl, rfl, fun v c hbucket => hcount _ hbucket, fun facet hfacet => ?_⟩
  obtain ⟨⟨field, domain⟩, hdeclared, rfl⟩ := List.mem_map.mp hfacet
  exact ⟨domain, hdeclared, fun v c hbucket => (hcount _ hbucket).1⟩

section

variable (hg : g.store.Consistent) (hon : g.store.available = true) {deadline : Deadline}
  (htime : deadline.checkAll = .ok ()) (hplan : g.plan r caller = .ok plan)
  (hdescribed : ∀ key d, g.store.live? key = some d → d.DescribedBy g.schemas)

include hg hon htime hplan

/-- A request with a plan is answered with a total of what matches the plan. -/
theorem exists_search_eq_ok :
    ∃ response found, (g.search r caller deadline).1 = .ok response ∧
      g.store.lookup plan = .ok found ∧ found.candidates.map (·.document) = g.store.matched plan ∧
      response.total = found.candidates.length := by
  have hlookup := Store.lookup_eq_scan hg hon plan
  exact ⟨_, _, search_eq_ok_iff.mpr ⟨htime, plan, _, hplan, hlookup, rfl⟩, hlookup,
    Store.map_document_of_lookup hg hon hlookup, total_answer g plan _⟩

include hdescribed

/-- A match of a type is found by the request for that type, with all other matches of the type. -/
theorem search_of_type {d : Document} (hd : d ∈ g.store.matched plan) :
    ∃ response,
      (g.search { r with entityType := some d.entityType.name } caller deadline).1 =
        .ok response ∧
      response.total = (g.store.matched plan).countP (·.entityType.name == d.entityType.name) := by
  obtain ⟨⟨hlive, htype, _⟩, _, hmatches⟩ := hg.mem_matched.mp hd
  have ht : d.entityType ∈ plan.types := List.contains_iff_mem.mp htype
  -- the match has a value in the field of every filter, so that its type declares the field
  have hdeclared : ∀ filter ∈ plan.filters,
      g.schemas.declaresAny [d.entityType] filter.1 = true := by
    intro filter hfilter
    obtain ⟨value, hvalue, _⟩ := QueryPlan.matchesFilters_iff.mp hmatches filter hfilter
    exact (hdescribed _ d hlive).declares (AccessView.field?_of_visibleValue? hvalue)
  obtain ⟨response, found, hsearch, _, hfound, htotal⟩ :=
    exists_search_eq_ok hg hon htime (plan_of_type hplan ht hdeclared)
  refine ⟨response, hsearch, ?_⟩
  rw [htotal, ← hg.length_matched_of_type plan ht, ← hfound, List.length_map]

/-- Where facets are of keywords, a request with a filter on a value of a facet finds the matches that the
facet counts under the value. -/
theorem search_of_facet_value (hkeywords : g.schemas.FacetsAreKeywords) {field : String}
    {domain : FacetDomain} (hfacet : (field, domain) ∈ g.schemas.facets plan.types) (v : String) :
    ∃ response plan' found,
      (g.search { r with filters := r.filters.insert field v } caller deadline).1 =
        .ok response ∧
      g.plan { r with filters := r.filters.insert field v } caller = .ok plan' ∧
      g.store.lookup plan' = .ok found ∧ response.total = found.candidates.length ∧
      ∀ d ∈ g.store.matched plan, Facets.value? g.schemas plan.view field d = some v →
        d ∈ found.candidates.map (·.document) := by
  obtain ⟨t, ht, f, hf, rfl, hdomain⟩ := SchemaRegistry.exists_of_mem_facets hfacet
  have hisFacet : f.isFacet = true := by
    rw [FieldSpec.isFacet, hdomain]
    rfl
  have hdeclared : g.schemas.declaresAny plan.types f.name = true :=
    SchemaRegistry.declaresAny_iff.mpr ⟨t, ht, f, hf, rfl⟩
  have hopen : ∀ t' ∈ plan.types, g.schemas.isSensitive t' f.name = false :=
    fun t' _ => hkeywords.isSensitive_eq_false hf hisFacet t'
  have hplan' := plan_of_filter hplan hdeclared hopen v
  obtain ⟨response, found, hsearch, hlookup, hfound, htotal⟩ :=
    exists_search_eq_ok hg hon htime hplan'
  refine ⟨response, _, found, hsearch, hplan', hlookup, htotal, fun d hd hcounted => ?_⟩
  obtain ⟨value, hvalue, htext⟩ := Facets.exists_of_value? hcounted
  have hlive := (hg.mem_matched.mp hd).1.1
  have htrimmed := (hdescribed _ d hlive).trimmed_of_keyword
    (fun f' hf' hname => (hkeywords t _ f f' hf hisFacet hf' hname).1)
    (AccessView.field?_of_visibleValue? hvalue)
  rw [hfound]
  exact hg.mem_matched_of_filter (filters_of_plan hplan) hd hvalue
    (FieldValue.matchesFilter_facetValue htrimmed htext)

end

/-- Facets predict narrower searches.  After calls that give an engine with the standard schemas its
documents by changes of records, and that leave the store available, of every request that succeeds: for a
bucket of the facet of types the same request for that type succeeds and finds as many as the bucket
counts; and for a bucket of another facet the same request with a filter on the bucket's value, in place of
whatever it asks of the field, succeeds and finds every document that the bucket counts, so at least as
many. -/
theorem facets_predict_drill_down (settings : SearchSettings) (policy : AccessPolicy)
    (calls : List EngineCall) (hcalls : ∀ call ∈ calls, call.givesDocument = false)
    (hon : ((start settings .standard policy).run calls).store.available = true)
    (r : SearchRequest) (caller : Caller) (deadline : Deadline) (response : SearchResponse)
    (hsearch : (((start settings .standard policy).run calls).search r caller deadline).1 =
      .ok response) :
    let g := (start settings .standard policy).run calls
    ∃ plan found types rest, g.plan r caller = .ok plan ∧ g.store.lookup plan = .ok found ∧
      response.facets = types :: rest ∧ types.field = "type" ∧
      (∀ v c, (v, c) ∈ types.buckets →
        ∃ response',
          (g.search { r with entityType := some v } caller deadline).1 = .ok response' ∧
            response'.total = c) ∧
      ∀ facet ∈ rest, ∀ v c, (v, c) ∈ facet.buckets →
        let counted := (found.candidates.map (·.document)).filter fun d =>
          Facets.value? .standard plan.view facet.field d == some v
        let narrowed := { r with filters := r.filters.insert facet.field v }
        counted.length = c ∧ ∃ response' plan' found',
          (g.search narrowed caller deadline).1 = .ok response' ∧
            g.plan narrowed caller = .ok plan' ∧ g.store.lookup plan' = .ok found' ∧
            response'.total = found'.candidates.length ∧
            (∀ d ∈ counted, d ∈ found'.candidates.map (·.document)) ∧ c ≤ response'.total := by
  intro g
  have hg : g.store.Consistent := consistent_run (consistent_start settings .standard policy) calls
  have hschemas : g.schemas = .standard := (sameConfiguration_run _ calls).schemas
  have hdescribed : ∀ key d, g.store.live? key = some d → d.DescribedBy g.schemas :=
    fun key d hlive => hschemas ▸ described_of_live settings .standard policy hcalls hlive
  have hkeywords : g.schemas.FacetsAreKeywords := hschemas ▸ SchemaRegistry.facetsAreKeywords_standard
  obtain ⟨htime, plan, found, hplan, hfound, rfl⟩ := search_eq_ok_iff.mp hsearch
  have hmatched := Store.map_document_of_lookup hg hon hfound
  obtain ⟨types, rest, hfacets, hfield, htypes, hrest⟩ := g.facets_answer plan found
  refine ⟨plan, found, types, rest, hplan, hfound, hfacets, hfield, ?type, ?value⟩
  case type =>
    intro v c hbucket
    obtain ⟨rfl, hpositive⟩ := htypes v c hbucket
    rw [hmatched] at hpositive ⊢
    obtain ⟨d, hd, hv⟩ := List.countP_pos_iff.mp hpositive
    rw [← beq_iff_eq.mp hv]
    exact search_of_type hg hon htime hplan hdescribed hd
  case value =>
    intro facet hfacet v c hbucket counted narrowed
    obtain ⟨domain, hdeclared, hbuckets⟩ := hrest facet hfacet
    have hlength : counted.length = c := by
      rw [hbuckets v c hbucket, List.countP_eq_length_filter, hschemas]
    obtain ⟨response', plan', found', hsearch', hplan', hfound', htotal', hfinds⟩ :=
      search_of_facet_value hg hon htime hplan hdescribed hkeywords hdeclared v
    have hsubset : ∀ d ∈ counted, d ∈ found'.candidates.map (·.document) := by
      intro d hd
      obtain ⟨hd, hvalue⟩ := List.mem_filter.mp hd
      rw [hmatched] at hd
      rw [← hschemas, beq_iff_eq] at hvalue
      exact hfinds d hd hvalue
    have hnodup : counted.Nodup := by
      have hnodup := hg.nodup_matched plan
      rw [← hmatched] at hnodup
      exact hnodup.filter _
    refine ⟨hlength, response', plan', found', hsearch', hplan', hfound', htotal', hsubset, ?_⟩
    have hle := hnodup.length_le_of_subset hsubset
    rw [List.length_map] at hle
    rwa [← hlength, htotal']

/-- A guest who looks for steel finds the one pump that is not kept by a tenant to itself, and finds it
among the parts and in its category. -/
theorem facets_predict_drill_down_of_pumps :
    let listed : ChangeEvent := .write .part none "p1"
      (.object [("name", .string "Steel pump"), ("category", .string "  Pumps ")]) ⟨1, 0⟩
    let kept : ChangeEvent := .write .part (some "acme") "p2"
      (.object [("name", .string "Steel valve"), ("category", .string "Valves")]) ⟨2, 0⟩
    let calls : List EngineCall := [.apply listed, .apply kept]
    let g := (start {} .standard .standard).run calls
    let r : SearchRequest := { query := "steel" }
    (∀ call ∈ calls, call.givesDocument = false) ∧ g.store.available = true ∧
      ∃ response inType inCategory, (g.search r .guest {}).1 = .ok response ∧
        (g.search { r with entityType := some "part" } .guest {}).1 = .ok inType ∧
        (g.search { r with filters := r.filters.insert "category" "Pumps" } .guest {}).1 =
          .ok inCategory ∧
        inType.total = 1 ∧ 1 ≤ inCategory.total := by
  intro listed kept calls g r
  have hcalls : ∀ call ∈ calls, call.givesDocument = false := by decide
  have hon : g.store.available = true := by decide
  obtain ⟨response, hsearch, hread⟩ : ∃ response, (g.search r .guest {}).1 = .ok response ∧
      (response.facets.head?.map (·.buckets),
        (response.facets.tail.find? (·.field == "category")).map (·.buckets)) =
          (some [("part", 1)], some [("Pumps", 1)]) :=
    exists_of_toOption_map (by with_unfolding_all decide)
  obtain ⟨_, _, types, rest, _, _, hfacets, _, htypes, hvalues⟩ :=
    facets_predict_drill_down {} .standard calls hcalls hon r .guest {} response hsearch
  rw [hfacets, Prod.mk.injEq] at hread
  have hbuckets : types.buckets = [("part", 1)] := Option.some.inj hread.1
  obtain ⟨facet, hfound, hbuckets'⟩ := Option.map_eq_some_iff.mp hread.2
  have hfield := List.find?_some hfound
  rw [beq_iff_eq] at hfield
  obtain ⟨inType, hinType, hone⟩ := htypes "part" 1 (hbuckets ▸ List.mem_singleton.mpr rfl)
  obtain ⟨_, inCategory, _, _, hinCategory, _, _, _, _, hmore⟩ :=
    hvalues facet (List.mem_of_find?_eq_some hfound) "Pumps" 1
      (hbuckets' ▸ List.mem_singleton.mpr rfl)
  rw [hfield] at hinCategory
  exact ⟨hcalls, hon, response, inType, inCategory, hsearch, hinType, hinCategory, hone, hmore⟩

end Engine

end CatalogSearch
